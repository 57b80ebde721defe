import CrmPortal.Customers
import CrmPortal.ListPaging
import CrmPortal.Library.LikePattern
import CrmPortal.SqlText

/-!
# Statements written by interpolation

`list_customers`, `list_tickets` and `update_customer` write texts of the caller into
the statement, between quotes, and hand it to `text()`. Only the first of the three looks
for quotes in what it writes, and it reports them and goes on; none looks for a colon.
-/

namespace InterpolatedStatements

open PyValue CrmDatabase ListPaging QuotedText LikePattern SqlText SqlText.TextClause

/-- What `lower` does to a quote, and the library that takes the statements. -/
structure SearchEnv where
  py : Builtins
  lib : TextClause
  lower_quote : py.lower "'" = "'"
  lower_keeps : ∀ s : String, '\'' ∈ s.toList → '\'' ∈ (py.lower s).toList

/-- `part in text`. -/
def contains (part text : String) : Bool := decide (part.toList <:+: text.toList)

structure CustomersRequest where
  search : String
  sortBy : String
  page : PageSize
  offset : Nat

def sqliPatterns : List String := ["'", "\"", "--", ";", "UNION", "SELECT", "DROP", "OR 1=1"]

def looksLikeSqli (py : Builtins) (search : String) : Bool :=
  sqliPatterns.any fun p => contains (py.lower p) (py.lower search)

/-- What is reported, and what comes of the statement that is executed all the same. -/
structure Searched where
  reported : Bool
  answer : Except PyExc (List Token)

def paging (page : PageSize) (offset : Nat) : String :=
  s!" OFFSET {offset} ROWS FETCH NEXT {page.limit} ROWS ONLY"

def customersQuery (r : CustomersRequest) : String :=
  (if r.search ≠ "" then
    s!"SELECT * FROM customers WHERE name LIKE '%{r.search}%' OR email LIKE '%{r.search}%'" ++
      s!" ORDER BY {r.sortBy}"
  else s!"SELECT * FROM customers ORDER BY {r.sortBy}") ++ paging r.page r.offset

def listCustomers (env : SearchEnv) (r : CustomersRequest) : Searched where
  reported := decide (r.search ≠ "") && looksLikeSqli env.py r.search
  answer := env.lib.execute [] (customersQuery r)

structure TicketsRequest where
  search : String
  priority : String
  status : String
  page : PageSize
  offset : Nat

def looksLikeXss (py : Builtins) (search : String) : Bool :=
  contains "<script" (py.lower search) || contains "onerror" (py.lower search)

/-- The two filters are parameters of the statement. -/
def ticketFilters (r : TicketsRequest) : String :=
  (if r.priority ≠ "" then " AND t.priority = :priority" else "") ++
    (if r.status ≠ "" then " AND t.status = :status" else "") ++
    " ORDER BY t.created_at DESC" ++ paging r.page r.offset

def ticketParams (r : TicketsRequest) : List String :=
  (if r.priority ≠ "" then ["priority"] else []) ++ (if r.status ≠ "" then ["status"] else [])

def ticketsBase : String :=
  "SELECT t.*, c.name as customer_name FROM support_tickets t " ++
    "LEFT JOIN customers c ON t.customer_id = c.id WHERE 1=1"

def ticketsQuery (r : TicketsRequest) : String :=
  ticketsBase ++
    (if r.search ≠ "" then
      s!" AND (t.subject LIKE '%{r.search}%' OR t.description LIKE '%{r.search}%')"
    else "") ++ ticketFilters r

def listTickets (env : SearchEnv) (r : TicketsRequest) : Searched where
  reported := decide (r.search ≠ "") && looksLikeXss env.py r.search
  answer := env.lib.execute (ticketParams r) (ticketsQuery r)

def updateFields : List String :=
  ["name", "email", "phone", "company", "industry", "revenue", "notes"]

/-- The fields that the body has, with the texts of their values. -/
def setParts (py : Builtins) (body : Obj) : List (String × String) :=
  updateFields.filterMap fun field => (List.lookup field body).map fun v => (field, v.toStr py)

def setPart (part : String × String) : String := s!"{part.1} = '{part.2}'"

def updateStatement (customerId : Int) (parts : List (String × String)) : String :=
  "UPDATE customers SET " ++ String.intercalate ", " (parts.map setPart) ++
    s!" WHERE id = {customerId}"

/-- `field in items`, for a list. -/
def isItem (field : String) (items : List Json) : Bool :=
  items.any fun item => match item with
    | .str text => decide (text = field)
    | _ => false

/-- Nothing is executed without a field. A body that is not an object has a field only
in the sense of `in`, and then fails at the subscript. -/
def updateCustomer (env : SearchEnv) (customerId : Int) : Json → Except PyExc (Option (List Token))
  | .obj body =>
    if setParts env.py body = [] then .ok none
    else (env.lib.execute [] (updateStatement customerId (setParts env.py body))).map some
  | .arr items =>
    if updateFields.any fun field => isItem field items then .error .typeError
    else .ok none
  | .str text =>
    if updateFields.any fun field => contains field text then .error .typeError else .ok none
  | _ => .error .typeError

theorem toList_toString (s : String) : (toString s).toList = s.toList := rfl

theorem no_colon_nat (n : Nat) : ':' ∉ (toString n).toList := by
  intro h
  have hdigits : (toString n).toList = Nat.toDigits 10 n := String.toList_ofList
  rw [hdigits] at h
  exact absurd (Nat.isDigit_of_mem_toDigits (by decide) (by decide) h) (by decide)

theorem no_colon_int (z : Int) : ':' ∉ (toString z).toList := by
  rw [Int.toString_eq_repr, Int.repr_eq_if]
  split
  · exact no_colon_nat _
  · rw [String.toList_append]
    exact fun h => (List.mem_append.mp h).elim (by decide) (no_colon_nat _)

/-- The paging behind its first blank. -/
def pagingTail (page : PageSize) (offset : Nat) : String :=
  s!"OFFSET {offset} ROWS FETCH NEXT {page.limit} ROWS ONLY"

theorem paging_text (page : PageSize) (offset : Nat) :
    (paging page offset).toList = ' ' :: (pagingTail page offset).toList := by
  unfold paging pagingTail
  repeat rw [String.toList_append]
  rfl

theorem no_colon_paging (page : PageSize) (offset : Nat) :
    ':' ∉ (pagingTail page offset).toList := by
  have hoffset := no_colon_nat offset
  have hlimit := no_colon_nat page.limit
  unfold pagingTail
  repeat rw [String.toList_append]
  simp only [List.mem_append, not_or]
  exact ⟨⟨⟨⟨by decide, hoffset⟩, by decide⟩, hlimit⟩, by decide⟩

def nameCode : List Char := "SELECT * FROM customers WHERE name LIKE ".toList

def emailCode : List Char := " OR email LIKE ".toList

def orderCode : List Char := " ORDER BY".toList

/-- The search for customers around its two patterns. -/
def customersFrame (r : CustomersRequest) : Frame where
  codes := [nameCode, emailCode]
  rest := orderCode ++ ' ' :: (r.sortBy.toList ++ (paging r.page r.offset).toList)
  codesApart := by
    intro code hcode
    rcases List.mem_pair.mp hcode with rfl | rfl
    · exact ⟨by decide, show nameCode.head? ≠ some '\'' by decide⟩
    · exact ⟨by decide, show emailCode.head? ≠ some '\'' by decide⟩
  codesPlain := by
    intro code hcode
    rcases List.mem_pair.mp hcode with rfl | rfl <;> decide +kernel
  restApart := ⟨' ', _, rfl, by decide, by decide⟩

theorem customersFrame_binds (lib : TextClause) (r : CustomersRequest) :
    binds (lib.parse (customersFrame r).rest) = binds (lib.parse r.sortBy.toList) := by
  have hblank : ' ' ∈ dividers := by decide
  have horder : ':' ∉ orderCode := by decide
  show binds (lib.parse
    (orderCode ++ ' ' :: (r.sortBy.toList ++ (paging r.page r.offset).toList))) =
    binds (lib.parse r.sortBy.toList)
  rw [paging_text, lib.binds_divided hblank, lib.binds_divided hblank, lib.binds_plain horder,
    lib.binds_plain (no_colon_paging r.page r.offset), List.nil_append, List.append_nil]

theorem nameCode_quoted :
    (toString "SELECT * FROM customers WHERE name LIKE '%").toList = nameCode ++ ['\'', '%'] := rfl

theorem emailCode_quoted :
    (toString "%' OR email LIKE '%").toList = ['%', '\''] ++ emailCode ++ ['\'', '%'] := rfl

theorem closed_quoted : (toString "%'").toList = ['%', '\''] := rfl

theorem orderCode_text : (toString " ORDER BY ").toList = orderCode ++ [' '] := rfl

/-- What is written between the two pairs of quotes. -/
def patterns (search : String) : List (List Char) :=
  [patternOf search.toList, patternOf search.toList]

theorem customersQuery_writes {r : CustomersRequest} (h : r.search ≠ "") :
    (customersFrame r).Writes (patterns r.search) (customersQuery r) := by
  refine ⟨rfl, ?_⟩
  unfold customersQuery
  rw [if_pos h]
  repeat rw [String.toList_append]
  rw [nameCode_quoted, emailCode_quoted, closed_quoted, orderCode_text, toList_toString,
    toList_toString]
  simp [customersFrame, patterns, fill, patternOf]

def subjectCode : List Char := ticketsBase.toList ++ " AND (t.subject LIKE ".toList

def descriptionCode : List Char := " OR t.description LIKE ".toList

/-- The search for tickets around its two patterns. -/
def ticketsFrame (r : TicketsRequest) : Frame where
  codes := [subjectCode, descriptionCode]
  rest := ')' :: (ticketFilters r).toList
  codesApart := by
    intro code hcode
    rcases List.mem_pair.mp hcode with rfl | rfl
    · exact ⟨by decide +kernel, show subjectCode.head? ≠ some '\'' by decide +kernel⟩
    · exact ⟨by decide, show descriptionCode.head? ≠ some '\'' by decide⟩
  codesPlain := by
    intro code hcode
    rcases List.mem_pair.mp hcode with rfl | rfl <;> decide +kernel
  restApart := ⟨')', _, rfl, by decide, by decide⟩

/-- A filter of the statement has one parameter, if it is there. -/
theorem binds_filter (lib : TextClause) (given front name : String)
    (hfront : ':' ∉ front.toList) (hne : name.toList ≠ []) (hname : name.toList.all Char.isLower)
    (back : List Char) :
    binds (lib.parse ((if given ≠ "" then front ++ " :" ++ name else "").toList ++ ' ' :: back)) =
      (if given ≠ "" then [name] else []) ++ binds (lib.parse (' ' :: back)) := by
  have hblank : ' ' ∈ dividers := by decide
  split
  · have htext : (front ++ " :" ++ name).toList ++ ' ' :: back =
        front.toList ++ ' ' :: (':' :: name.toList ++ ' ' :: back) := by
      rw [String.toList_append, String.toList_append, List.append_assoc, List.append_assoc]
      rfl
    rw [htext, lib.binds_divided hblank, lib.binds_divided hblank, lib.binds_plain hfront,
      lib.named hne (List.all_eq_true.mp hname), lib.parse_cons hblank, String.ofList_toList]
    rfl
  · rfl

theorem priorityFilter_text :
    " AND t.priority = :priority" = " AND t.priority =" ++ " :" ++ "priority" := by decide +kernel

theorem statusFilter_text :
    " AND t.status = :status" = " AND t.status =" ++ " :" ++ "status" := by decide +kernel

/-- The order of the tickets and their paging, behind the first blank. -/
def sorting (r : TicketsRequest) : List Char :=
  "ORDER BY t.created_at DESC".toList ++ (paging r.page r.offset).toList

theorem no_colon_sorting (r : TicketsRequest) : ':' ∉ ' ' :: sorting r := by
  have horder : ':' ∉ "ORDER BY t.created_at DESC".toList := by decide +kernel
  intro h
  rcases List.mem_append.mp ((List.mem_cons.mp h).resolve_left (by decide)) with h | h
  · exact horder h
  · rw [paging_text] at h
    exact no_colon_paging _ _ ((List.mem_cons.mp h).resolve_left (by decide))

theorem ticketFilters_text (r : TicketsRequest) : (ticketFilters r).toList =
    (if r.priority ≠ "" then " AND t.priority =" ++ " :" ++ "priority" else "").toList ++
      ((if r.status ≠ "" then " AND t.status =" ++ " :" ++ "status" else "").toList ++
        ' ' :: sorting r) := by
  have horder : " ORDER BY t.created_at DESC".toList =
      ' ' :: "ORDER BY t.created_at DESC".toList := rfl
  unfold ticketFilters sorting
  rw [priorityFilter_text, statusFilter_text, String.toList_append, String.toList_append,
    String.toList_append, horder, List.append_assoc, List.append_assoc]
  rfl

/-- What stands behind the literals has a parameter for each filter, and its value. -/
theorem ticketsFrame_binds (lib : TextClause) (r : TicketsRequest) :
    binds (lib.parse (ticketsFrame r).rest) = ticketParams r := by
  have hstatus := binds_filter lib r.status " AND t.status =" "status" (by decide +kernel)
    (by decide) (by decide +kernel) (sorting r)
  obtain ⟨back, hback⟩ : ∃ back,
      (if r.status ≠ "" then " AND t.status =" ++ " :" ++ "status" else "").toList ++
        ' ' :: sorting r = ' ' :: back := by
    split
    · exact ⟨_, rfl⟩
    · exact ⟨_, rfl⟩
  have hpriority := binds_filter lib r.priority " AND t.priority =" "priority" (by decide +kernel)
    (by decide) (by decide +kernel) back
  show binds (lib.parse (')' :: (ticketFilters r).toList)) = ticketParams r
  rw [lib.parse_cons (by decide), binds_char, ticketFilters_text, hback, hpriority, ← hback,
    hstatus, lib.binds_plain (no_colon_sorting r), List.append_nil]
  rfl

theorem subjectCode_quoted : ticketsBase.toList ++ (toString " AND (t.subject LIKE '%").toList =
    subjectCode ++ ['\'', '%'] := by
  rw [subjectCode, List.append_assoc]
  rfl

theorem descriptionCode_quoted : (toString "%' OR t.description LIKE '%").toList =
    ['%', '\''] ++ descriptionCode ++ ['\'', '%'] := rfl

theorem closing_quoted : (toString "%')").toList = ['%', '\'', ')'] := rfl

theorem ticketsQuery_writes {r : TicketsRequest} (h : r.search ≠ "") :
    (ticketsFrame r).Writes (patterns r.search) (ticketsQuery r) := by
  refine ⟨by simp [patterns, ticketsFrame], ?_⟩
  unfold ticketsQuery
  rw [if_pos h]
  repeat rw [String.toList_append]
  repeat rw [← List.append_assoc]
  rw [subjectCode_quoted, descriptionCode_quoted, closing_quoted, toList_toString]
  simp [ticketsFrame, patterns, fill, patternOf]

/-- A search that is not reported holds no quote. -/
theorem no_quote_of_unreported {env : SearchEnv} {r : CustomersRequest} (h : r.search ≠ "")
    (hreport : (listCustomers env r).reported = false) : '\'' ∉ r.search.toList := by
  intro hquote
  have hfound : contains (env.py.lower "'") (env.py.lower r.search) = true := by
    obtain ⟨front, back, hsplit⟩ := List.append_of_mem (env.lower_keeps r.search hquote)
    rw [env.lower_quote]
    exact decide_eq_true ⟨front, back, by rw [hsplit]; simp⟩
  have hlooks : looksLikeSqli env.py r.search = true :=
    List.any_eq_true.mpr ⟨"'", List.mem_cons_self, hfound⟩
  simp [listCustomers, h, hlooks] at hreport

theorem forall_patterns {lib : TextClause} {search : String} :
    (∀ value ∈ patterns search, '\'' ∉ value ∧ lib.parse value = chars value) ↔
      '\'' ∉ search.toList ∧ lib.parse search.toList = chars search.toList := by
  have hquote : '\'' ∉ patternOf search.toList ↔ '\'' ∉ search.toList := by simp [patternOf]
  simp only [patterns, List.forall_mem_cons, hquote, lib.parse_pattern_eq]
  simp

theorem customers_reaches_iff (env : SearchEnv) {r : CustomersRequest} (h : r.search ≠ "") :
    (customersFrame r).Reaches env.lib (patterns r.search) (listCustomers env r).answer ↔
      '\'' ∉ r.search.toList ∧ env.lib.parse r.search.toList = chars r.search.toList ∧
        binds (env.lib.parse r.sortBy.toList) = [] := by
  rw [show (listCustomers env r).answer = env.lib.execute [] (customersQuery r) from rfl,
    Frame.reaches_iff env.lib (customersQuery_writes h), forall_patterns, customersFrame_binds,
    and_assoc]
  simp [List.eq_nil_iff_forall_not_mem]

/-- A search for customers reaches the server with its literals as they were written exactly
if it has no quote, `text()` takes it as it stands and finds no parameter in the order, which
is free text; with a parameter in either nothing is sent. A search that goes unreported has
no quote, so that only its colons can keep it from being read as written. -/
theorem customers_search_as_written (env : SearchEnv) (r : CustomersRequest) (h : r.search ≠ "") :
    ((customersFrame r).Reaches env.lib (patterns r.search) (listCustomers env r).answer ↔
      '\'' ∉ r.search.toList ∧ env.lib.parse r.search.toList = chars r.search.toList ∧
        binds (env.lib.parse r.sortBy.toList) = []) ∧
    ((listCustomers env r).answer = .error .statementError ↔
      binds (env.lib.parse r.search.toList) ≠ [] ∨ binds (env.lib.parse r.sortBy.toList) ≠ []) ∧
    ((listCustomers env r).reported = false → '\'' ∉ r.search.toList ∧
      (':' ∉ r.search.toList → binds (env.lib.parse r.sortBy.toList) = [] →
        (customersFrame r).Reaches env.lib (patterns r.search) (listCustomers env r).answer)) := by
  refine ⟨customers_reaches_iff env h, ?_, fun hreport => ?_⟩
  · rw [show (listCustomers env r).answer = env.lib.execute [] (customersQuery r) from rfl,
      Frame.refused_iff env.lib (customersQuery_writes h), customersFrame_binds]
    simp [patterns, TextClause.binds_pattern, List.eq_nil_iff_forall_not_mem]
  · have hquote := no_quote_of_unreported h hreport
    exact ⟨hquote, fun hcolon hsort =>
      (customers_reaches_iff env h).mpr ⟨hquote, env.lib.plain hcolon, hsort⟩⟩

theorem mem_ascii_lower {s : String} (h : '\'' ∈ s.toList) : '\'' ∈ (Ascii.lower s).toList := by
  unfold Ascii.lower
  rw [String.toList_ofList]
  exact List.mem_map.mpr ⟨'\'', h, rfl⟩

def sampleSearchEnv : SearchEnv where
  py := asciiBuiltins fun _ => ""
  lib := asciiClause
  lower_quote := by decide +kernel
  lower_keeps := fun _ => mem_ascii_lower

/-- A page of the customers that are found by a text. -/
def sampleSearch (search : String) : CustomersRequest where
  search := search
  sortBy := "name"
  page := ⟨100, by decide, by decide⟩
  offset := 0

/-- A name with a quote is reported and read as something else, a smile goes unreported and
is refused, and a plain name is read as written. -/
theorem customers_search_as_written_sample :
    ((listCustomers sampleSearchEnv (sampleSearch "O'Hara")).reported = true ∧
      ¬ (customersFrame (sampleSearch "O'Hara")).Reaches asciiClause (patterns "O'Hara")
        (listCustomers sampleSearchEnv (sampleSearch "O'Hara")).answer) ∧
    ((listCustomers sampleSearchEnv (sampleSearch "smile :D")).reported = false ∧
      (listCustomers sampleSearchEnv (sampleSearch "smile :D")).answer = .error .statementError) ∧
    (customersFrame (sampleSearch "ann")).Reaches asciiClause (patterns "ann")
      (listCustomers sampleSearchEnv (sampleSearch "ann")).answer := by
  refine ⟨⟨by decide +kernel, fun hread => ?_⟩, ⟨by decide +kernel, ?_⟩, ?_⟩
  · have hquote := ((customers_search_as_written sampleSearchEnv (sampleSearch "O'Hara")
      (by decide +kernel)).1.mp hread).1
    exact hquote (by decide +kernel)
  · exact (customers_search_as_written sampleSearchEnv (sampleSearch "smile :D")
      (by decide +kernel)).2.1.mpr (Or.inl (by decide +kernel))
  · exact ((customers_search_as_written sampleSearchEnv (sampleSearch "ann")
      (by decide +kernel)).2.2 (by decide +kernel)).2 (by decide +kernel) (by decide +kernel)

/-- The two filters of the tickets have their values, so that only the search decides. -/
theorem tickets_search_as_written (env : SearchEnv) (r : TicketsRequest) (h : r.search ≠ "") :
    (ticketsFrame r).Reaches env.lib (patterns r.search) (listTickets env r).answer ↔
      '\'' ∉ r.search.toList ∧ env.lib.parse r.search.toList = chars r.search.toList := by
  rw [show (listTickets env r).answer = env.lib.execute (ticketParams r) (ticketsQuery r) from rfl,
    Frame.reaches_iff env.lib (ticketsQuery_writes h), forall_patterns, ticketsFrame_binds]
  simp

/-- The text of a literal that no parameter was read into. -/
def letters : List Token → Option (List Char)
  | [] => some []
  | .bind _ :: _ => none
  | .char c :: more => (letters more).map (c :: ·)

theorem letters_chars (text : List Char) : letters (chars text) = some text := by
  induction text with
  | nil => rfl
  | cons c more ih =>
    rw [chars, List.map_cons, letters, ← chars, ih]
    rfl

/-- Whether a customer meets the condition of a search. -/
def selects (w : Wildcards Char) (sent : List Token) (c : Customer) : Option Bool :=
  match read (.char '\'') [chars nameCode, chars emailCode] sent with
  | some ([name, email], _) => do
    let name ← letters name
    let email ← letters email
    return like w name c.name.toList || like w email c.email.toList
  | _ => none

/-- `%`, `_` and the escape of the dialect, if it has one. -/
def sqlWildcards (escape : Option Char) (h : escape ≠ some '%') : Wildcards Char :=
  ⟨'%', '_', escape, h⟩

/-- The condition of a search that goes unreported, has no wildcard and nothing for `text()`
to read holds of the customers that have it in their name or address. -/
theorem unreported_search_selects (env : SearchEnv) (r : CustomersRequest) {escape : Option Char}
    (hescape : escape ≠ some '%') (h : r.search ≠ "")
    (hreport : (listCustomers env r).reported = false)
    (hread : env.lib.parse r.search.toList = chars r.search.toList)
    (hsort : binds (env.lib.parse r.sortBy.toList) = [])
    (hplain : Plain (sqlWildcards escape hescape) r.search.toList) :
    ∃ sent, (listCustomers env r).answer = .ok sent ∧
      ∀ c, selects (sqlWildcards escape hescape) sent c =
        some (contains r.search c.name || contains r.search c.email) := by
  obtain ⟨sent, hsent, hwritten⟩ := (customers_reaches_iff env h).mpr
    ⟨no_quote_of_unreported h hreport, hread, hsort⟩
  have hlike : ∀ text : String,
      like (sqlWildcards escape hescape) (patternOf r.search.toList) text.toList =
        contains r.search text := by
    intro text
    rw [Bool.eq_iff_iff, contains, decide_eq_true_iff]
    exact like_around hplain
  have hliterals : read (.char '\'') [chars nameCode, chars emailCode] sent =
      some ([chars (patternOf r.search.toList), chars (patternOf r.search.toList)],
        env.lib.parse (customersFrame r).rest) := hwritten
  refine ⟨sent, hsent, fun c => ?_⟩
  unfold selects
  rw [hliterals]
  simp only [letters_chars]
  change some (like _ _ _ || like _ _ _) = _
  rw [hlike, hlike]

theorem no_escape : (none : Option Char) ≠ some '%' := by decide

theorem plain_ann : Plain (sqlWildcards none no_escape) "ann".toList := by
  intro c hc
  rw [show "ann".toList = ['a', 'n', 'n'] from rfl] at hc
  rcases List.mem_cons.mp hc with rfl | hc
  · decide
  · rcases List.mem_pair.mp hc with rfl | rfl <;> decide

theorem unreported_search_selects_sample :
    ∃ sent, (listCustomers sampleSearchEnv (sampleSearch "ann")).answer = .ok sent ∧
      ∀ c, selects (sqlWildcards none no_escape) sent c =
        some (contains "ann" c.name || contains "ann" c.email) :=
  unreported_search_selects sampleSearchEnv (sampleSearch "ann") no_escape (by decide +kernel)
    (by decide +kernel) (by decide +kernel) (by decide +kernel) plain_ann

def setCode : List Char := "UPDATE customers SET ".toList

def commaCode : List Char := ", ".toList

def equalsCode : List Char := " = ".toList

def whereText (customerId : Int) : List Char := (s!" WHERE id = {customerId}").toList

/-- The code before the literal of a field. -/
def assignCode (lead : List Char) (field : String) : List Char :=
  lead ++ (field.toList ++ equalsCode)

/-- The code before each literal of an update of these fields. -/
def updateCodes : List String → List (List Char)
  | [] => []
  | field :: more => assignCode setCode field :: more.map (assignCode commaCode)

theorem setPart_text (part : String × String) (after : List Char) :
    (setPart part).toList ++ after =
      part.1.toList ++ (equalsCode ++ '\'' :: (part.2.toList ++ '\'' :: after)) := by
  have hequals : (toString " = '").toList = equalsCode ++ ['\''] := rfl
  have hclose : (toString "'").toList = ['\''] := rfl
  unfold setPart
  repeat rw [String.toList_append]
  rw [hequals, hclose, toList_toString, toList_toString]
  simp

/-- `", ".join(set_parts)`, in front of the rest of the statement. -/
theorem join_text (part : String × String) (more : List (String × String)) (rest : List Char) :
    (String.intercalate ", " ((part :: more).map setPart)).toList ++ rest =
      part.1.toList ++ (equalsCode ++ '\'' :: (part.2.toList ++ '\'' ::
        fill '\'' ((more.map fun p => assignCode commaCode p.1).zip
          (more.map fun p => p.2.toList)) rest)) := by
  induction more generalizing part with
  | nil =>
    rw [List.map_cons, List.map_nil, String.intercalate_singleton, setPart_text]
    rfl
  | cons next tail ih =>
    have hcomma : (", " : String).toList = commaCode := rfl
    rw [List.map_cons, List.map_cons, String.intercalate_cons_cons, String.toList_append,
      String.toList_append, hcomma, List.append_assoc, List.append_assoc, setPart_text,
      ← List.map_cons, ih]
    simp [fill, assignCode]

theorem apart_assignCode {lead : List Char} (hne : lead ≠ []) (h : Apart '\'' lead)
    (field : String) : assignCode lead field ≠ [] ∧ Apart '\'' (assignCode lead field) :=
  ⟨List.append_ne_nil_of_left_ne_nil hne _, h.append hne _⟩

theorem no_colon_assignCode {lead : List Char} (h : ':' ∉ lead) {field : String}
    (hfield : field ∈ updateFields) : ':' ∉ assignCode lead field := by
  have hfields : ∀ name ∈ updateFields, ':' ∉ name.toList := by decide +kernel
  simp only [assignCode, List.mem_append, not_or]
  exact ⟨h, hfields field hfield, by decide⟩

theorem mem_updateCodes {fields : List String} {code : List Char} (h : code ∈ updateCodes fields) :
    ∃ field ∈ fields, code = assignCode setCode field ∨ code = assignCode commaCode field := by
  cases fields with
  | nil => cases h
  | cons field more =>
    rcases List.mem_cons.mp h with rfl | hmore
    · exact ⟨field, List.mem_cons_self, Or.inl rfl⟩
    · obtain ⟨other, hother, rfl⟩ := List.mem_map.mp hmore
      exact ⟨other, List.mem_cons_of_mem _ hother, Or.inr rfl⟩

theorem length_updateCodes (fields : List String) :
    (updateCodes fields).length = fields.length := by
  cases fields with
  | nil => rfl
  | cons field more => simp [updateCodes]

theorem whereText_eq (customerId : Int) :
    whereText customerId = ' ' :: ("WHERE id = ".toList ++ (toString customerId).toList) := by
  unfold whereText
  rw [String.toList_append]
  rfl

/-- An update around the texts of the values. -/
def updateFrame (customerId : Int) (fields : List String)
    (known : ∀ field ∈ fields, field ∈ updateFields) : Frame where
  codes := updateCodes fields
  rest := whereText customerId
  codesApart := by
    intro code hcode
    obtain ⟨field, -, rfl | rfl⟩ := mem_updateCodes hcode
    · exact apart_assignCode (by decide) (show setCode.head? ≠ some '\'' by decide) field
    · exact apart_assignCode (by decide) (show commaCode.head? ≠ some '\'' by decide) field
  codesPlain := by
    intro code hcode
    obtain ⟨field, hfield, rfl | rfl⟩ := mem_updateCodes hcode
    · exact no_colon_assignCode (by decide) (known field hfield)
    · exact no_colon_assignCode (by decide) (known field hfield)
  restApart := ⟨' ', _, whereText_eq customerId, by decide, by decide⟩

theorem mem_setParts {py : Builtins} {body : Obj} {part : String × String} :
    part ∈ setParts py body ↔ part.1 ∈ updateFields ∧
      ∃ v, List.lookup part.1 body = some v ∧ part.2 = v.toStr py := by
  unfold setParts
  rw [List.mem_filterMap]
  constructor
  · rintro ⟨field, hfield, hpair⟩
    obtain ⟨v, hv, rfl⟩ := Option.map_eq_some_iff.mp hpair
    exact ⟨hfield, v, hv, rfl⟩
  · rintro ⟨hfield, v, hv, htext⟩
    exact ⟨part.1, hfield, by rw [hv, Option.map_some, ← htext]⟩

/-- The update of the fields that the body has. -/
def bodyFrame (py : Builtins) (customerId : Int) (body : Obj) : Frame :=
  updateFrame customerId ((setParts py body).map Prod.fst) (by
    intro field hfield
    obtain ⟨part, hpart, rfl⟩ := List.mem_map.mp hfield
    exact (mem_setParts.mp hpart).1)

/-- The texts that are written into it. -/
def bodyTexts (py : Builtins) (body : Obj) : List (List Char) :=
  (setParts py body).map fun part => part.2.toList

theorem mem_bodyTexts {py : Builtins} {body : Obj} {text : List Char} :
    text ∈ bodyTexts py body ↔ ∃ field ∈ updateFields, ∃ v, List.lookup field body = some v ∧
      text = (v.toStr py).toList := by
  unfold bodyTexts
  rw [List.mem_map]
  constructor
  · rintro ⟨part, hpart, rfl⟩
    obtain ⟨hfield, v, hv, htext⟩ := mem_setParts.mp hpart
    exact ⟨part.1, hfield, v, hv, by rw [htext]⟩
  · rintro ⟨field, hfield, v, hv, rfl⟩
    exact ⟨(field, v.toStr py), mem_setParts.mpr ⟨hfield, v, hv, rfl⟩, rfl⟩

theorem updateStatement_writes (py : Builtins) (customerId : Int) {body : Obj}
    (h : setParts py body ≠ []) : (bodyFrame py customerId body).Writes (bodyTexts py body)
      (updateStatement customerId (setParts py body)) := by
  refine ⟨?_, ?_⟩
  · show (bodyTexts py body).length = (updateCodes ((setParts py body).map Prod.fst)).length
    rw [length_updateCodes, bodyTexts, List.length_map, List.length_map]
  · show (updateStatement customerId (setParts py body)).toList =
      fill '\'' ((updateCodes ((setParts py body).map Prod.fst)).zip (bodyTexts py body))
        (whereText customerId)
    obtain ⟨part, more, hparts⟩ := List.exists_cons_of_ne_nil h
    have hset : ("UPDATE customers SET " : String).toList = setCode := rfl
    unfold updateStatement bodyTexts
    rw [hparts, String.toList_append, String.toList_append, hset, List.append_assoc]
    rw [show (toString " WHERE id = " ++ toString customerId : String).toList =
      whereText customerId from rfl, join_text]
    simp [updateCodes, fill, assignCode, Function.comp_def]

theorem binds_whereText (lib : TextClause) (customerId : Int) :
    binds (lib.parse (whereText customerId)) = [] := by
  have hcode : ':' ∉ ' ' :: "WHERE id = ".toList := by decide
  rw [whereText_eq]
  exact lib.binds_plain fun h => (List.mem_append.mp h).elim hcode (no_colon_int customerId)

/-- The update that the server reads sets the fields of the body to the texts of their
values, and ends at the identity, exactly if none of these texts has a quote or anything for
`text()` to read; with a parameter in one of them nothing is sent. -/
theorem update_as_sent (env : SearchEnv) (customerId : Int) (body : Obj) :
    (setParts env.py body = [] ∧ updateCustomer env customerId (.obj body) = .ok none) ∨
    setParts env.py body ≠ [] ∧
    ((∃ sent, updateCustomer env customerId (.obj body) = .ok (some sent) ∧
        (bodyFrame env.py customerId body).AsWritten env.lib (bodyTexts env.py body) sent) ↔
      ∀ field ∈ updateFields, ∀ v, List.lookup field body = some v →
        '\'' ∉ (v.toStr env.py).toList ∧
          env.lib.parse (v.toStr env.py).toList = chars (v.toStr env.py).toList) ∧
    (updateCustomer env customerId (.obj body) = .error .statementError ↔
      ∃ field ∈ updateFields, ∃ v, List.lookup field body = some v ∧
        binds (env.lib.parse (v.toStr env.py).toList) ≠ []) := by
  by_cases h : setParts env.py body = []
  · exact Or.inl ⟨h, if_pos h⟩
  have hwrites := updateStatement_writes env.py customerId h
  have hrest : binds (env.lib.parse (bodyFrame env.py customerId body).rest) = [] :=
    binds_whereText env.lib customerId
  have hanswer : updateCustomer env customerId (.obj body) =
      (env.lib.execute [] (updateStatement customerId (setParts env.py body))).map some := if_neg h
  have hreaches : (∃ sent, updateCustomer env customerId (.obj body) = .ok (some sent) ∧
        (bodyFrame env.py customerId body).AsWritten env.lib (bodyTexts env.py body) sent) ↔
      (bodyFrame env.py customerId body).Reaches env.lib (bodyTexts env.py body)
        (env.lib.execute [] (updateStatement customerId (setParts env.py body))) := by
    rw [hanswer, Frame.Reaches]
    cases env.lib.execute [] (updateStatement customerId (setParts env.py body)) <;>
      simp [Except.map]
  have hrefused : updateCustomer env customerId (.obj body) = .error .statementError ↔
      env.lib.execute [] (updateStatement customerId (setParts env.py body)) =
        .error .statementError := by
    rw [hanswer]
    cases env.lib.execute [] (updateStatement customerId (setParts env.py body)) <;>
      simp [Except.map]
  refine Or.inr ⟨h, ?_, ?_⟩
  · rw [hreaches, Frame.reaches_iff env.lib hwrites, hrest]
    simp only [mem_bodyTexts]
    constructor
    · rintro ⟨hvalues, -⟩ field hfield v hv
      exact hvalues _ ⟨field, hfield, v, hv, rfl⟩
    · rintro hfields
      refine ⟨?_, fun name hname => absurd hname List.not_mem_nil⟩
      rintro text ⟨field, hfield, v, hv, rfl⟩
      exact hfields field hfield v hv
  · rw [hrefused, Frame.refused_iff env.lib hwrites, hrest]
    simp only [mem_bodyTexts]
    constructor
    · rintro (⟨text, ⟨field, hfield, v, hv, rfl⟩, name, hname, -⟩ | ⟨name, hname, -⟩)
      · exact ⟨field, hfield, v, hv, List.ne_nil_of_mem hname⟩
      · cases hname
    · rintro ⟨field, hfield, v, hv, hne⟩
      obtain ⟨name, hname⟩ := List.exists_mem_of_ne_nil _ hne
      exact Or.inl ⟨_, ⟨field, hfield, v, hv, rfl⟩, name, hname, List.not_mem_nil⟩

example : updateCustomer sampleSearchEnv 7 (.obj [("notes", .str "Great customer :D")]) =
    .error .statementError := by decide +kernel

end InterpolatedStatements
