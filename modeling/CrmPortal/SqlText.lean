import CrmPortal.PyValue
import CrmPortal.Library.QuotedText

/-!
# Statements given as text

A handler hands a finished text to `execute(text(..), params)`. SQLAlchemy takes `:name`
in it for a parameter, between quotes as well, and a backslash keeps a colon from it. A
parameter without a value is refused before the server sees anything. What the server
takes for a literal it reads out of what is left.
-/

namespace SqlText

open PyValue QuotedText

/-- A character of the statement, or the place of a parameter. -/
inductive Token where
  | char (c : Char)
  | bind (name : String)
  deriving DecidableEq

def chars (text : List Char) : List Token := text.map .char

def Token.name : Token → Option String
  | .char _ => none
  | .bind name => some name

def binds (tokens : List Token) : List String := tokens.filterMap Token.name

@[simp] theorem binds_chars (text : List Char) : binds (chars text) = [] := by
  simp [binds, chars, Token.name]

@[simp] theorem binds_append (front back : List Token) :
    binds (front ++ back) = binds front ++ binds back := List.filterMap_append

@[simp] theorem binds_char (c : Char) (tokens : List Token) :
    binds (.char c :: tokens) = binds tokens := rfl

@[simp] theorem binds_bind (name : String) (tokens : List Token) :
    binds (.bind name :: tokens) = name :: binds tokens := rfl

/-- Neither a name nor an escape goes on over one of these. -/
def dividers : List Char := [' ', '\'', '%', ')']

/-- What `text()` makes of a statement. -/
structure TextClause where
  parse : List Char → List Token
  plain : ∀ {text}, ':' ∉ text → parse text = chars text
  named : ∀ {name}, name ≠ [] → (∀ c ∈ name, c.isLower) →
    parse (':' :: name) = [.bind (String.ofList name)]
  divided : ∀ {c front back}, c ∈ dividers →
    parse (front ++ c :: back) = parse front ++ .char c :: parse back
  shrinks : ∀ text, (parse text).length ≤ text.length

namespace TextClause

variable (lib : TextClause) {c : Char} {text search : List Char}

theorem parse_nil : lib.parse [] = [] := lib.plain List.not_mem_nil

theorem parse_cons (h : c ∈ dividers) (text : List Char) :
    lib.parse (c :: text) = .char c :: lib.parse text := by
  have hsplit : lib.parse ([] ++ c :: text) = lib.parse [] ++ .char c :: lib.parse text :=
    lib.divided h
  rw [lib.parse_nil] at hsplit
  exact hsplit

theorem binds_plain (h : ':' ∉ text) : binds (lib.parse text) = [] := by
  rw [lib.plain h, binds_chars]

theorem binds_divided (h : c ∈ dividers) (front back : List Char) :
    binds (lib.parse (front ++ c :: back)) =
      binds (lib.parse front) ++ binds (lib.parse back) := by
  rw [lib.divided h, binds_append, binds_char]

/-- The pieces of a statement are parsed one by one. -/
theorem parse_fill (pieces : List (List Char × List Char)) (rest : List Char) :
    lib.parse (fill '\'' pieces rest) =
      fill (.char '\'') (pieces.map fun p => (lib.parse p.1, lib.parse p.2)) (lib.parse rest) := by
  have hquote : '\'' ∈ dividers := by decide
  induction pieces with
  | nil => rfl
  | cons piece more ih => rw [fill, lib.divided hquote, lib.divided hquote, ih, List.map_cons, fill]

/-- `execute(text(statement), params)`: what the server is sent. -/
def execute (params : List String) (statement : String) : Except PyExc (List Token) :=
  if ∀ name ∈ binds (lib.parse statement.toList), name ∈ params then
    .ok (lib.parse statement.toList)
  else .error .statementError

theorem execute_cases (params : List String) (statement : String) :
    lib.execute params statement = .ok (lib.parse statement.toList) ∧
        (∀ name ∈ binds (lib.parse statement.toList), name ∈ params) ∨
      lib.execute params statement = .error .statementError ∧
        ∃ name ∈ binds (lib.parse statement.toList), name ∉ params := by
  unfold execute
  split
  · next h => exact Or.inl ⟨rfl, h⟩
  · next h =>
    push Not at h
    exact Or.inr ⟨rfl, h⟩

/-- The text of `'%{search}%'`. -/
def patternOf (search : List Char) : List Char := '%' :: (search ++ ['%'])

theorem parse_pattern :
    lib.parse (patternOf search) = .char '%' :: (lib.parse search ++ [.char '%']) := by
  have hpercent : '%' ∈ dividers := by decide
  rw [patternOf, lib.parse_cons hpercent, lib.divided hpercent, lib.parse_nil]

theorem parse_pattern_eq :
    lib.parse (patternOf search) = chars (patternOf search) ↔ lib.parse search = chars search := by
  rw [lib.parse_pattern]
  simp [patternOf, chars]

theorem binds_pattern : binds (lib.parse (patternOf search)) = binds (lib.parse search) := by
  rw [lib.parse_pattern, binds_char, binds_append, show binds [.char '%'] = [] from rfl,
    List.append_nil]

end TextClause

/-- A statement around its literals: the code before each of them, and what follows. -/
structure Frame where
  codes : List (List Char)
  rest : List Char
  codesApart : ∀ code ∈ codes, code ≠ [] ∧ Apart '\'' code
  codesPlain : ∀ code ∈ codes, ':' ∉ code
  restApart : ∃ c more, rest = c :: more ∧ c ∈ dividers ∧ c ≠ '\''

namespace Frame

variable (frame : Frame) (lib : TextClause) {values : List (List Char)} {params : List String}
  {statement : String}

/-- The server takes every literal for the text that was written into it, and goes on
behind the last one. -/
def AsWritten (values : List (List Char)) (sent : List Token) : Prop :=
  read (.char '\'') (frame.codes.map chars) sent = some (values.map chars, lib.parse frame.rest)

/-- The statement is made of the frame and these literals. -/
def Writes (values : List (List Char)) (statement : String) : Prop :=
  values.length = frame.codes.length ∧
    statement.toList = fill '\'' (frame.codes.zip values) frame.rest

/-- The literals reach the server as written. -/
def Reaches (values : List (List Char)) (answer : Except PyExc (List Token)) : Prop :=
  ∃ sent, answer = .ok sent ∧ frame.AsWritten lib values sent

variable {frame}

theorem parse_statement (h : frame.Writes values statement) : lib.parse statement.toList =
    fill (.char '\'') ((frame.codes.map chars).zip (values.map lib.parse))
      (lib.parse frame.rest) := by
  rw [h.2, lib.parse_fill, List.zip_map]
  congr 1
  refine List.map_congr_left fun piece hpiece => ?_
  rw [lib.plain (frame.codesPlain _ (List.of_mem_zip hpiece).1)]
  rfl

theorem binds_fill {codes : List (List Char)} {written : List (List Token)}
    (hlength : written.length = codes.length) (rest : List Token) :
    binds (fill (.char '\'') ((codes.map chars).zip written) rest) =
      written.flatMap binds ++ binds rest := by
  induction codes generalizing written with
  | nil =>
    obtain rfl := List.eq_nil_of_length_eq_zero hlength
    rfl
  | cons code codes ih =>
    cases written with
    | nil => cases hlength
    | cons first written =>
      simp only [List.map_cons, List.zip_cons_cons, fill, binds_append, binds_chars, binds_char,
        List.nil_append, ih (Nat.succ.inj hlength), List.flatMap_cons, List.append_assoc]

theorem mem_binds (h : frame.Writes values statement) {name : String} :
    name ∈ binds (lib.parse statement.toList) ↔
      (∃ value ∈ values, name ∈ binds (lib.parse value)) ∨ name ∈ binds (lib.parse frame.rest) := by
  rw [parse_statement lib h, binds_fill (by rw [List.length_map, h.1])]
  simp [List.mem_flatMap]

theorem restApart_parse : Apart (Token.char '\'') (lib.parse frame.rest) := by
  obtain ⟨c, more, hrest, hdivider, hquote⟩ := frame.restApart
  rw [hrest, lib.parse_cons hdivider]
  exact fun h => hquote (Token.char.inj (Option.some.inj h))

theorem codesApart_chars : ∀ code ∈ frame.codes.map chars,
    code ≠ [] ∧ Apart (Token.char '\'') code := by
  intro code hcode
  obtain ⟨text, htext, rfl⟩ := List.mem_map.mp hcode
  obtain ⟨hne, hapart⟩ := frame.codesApart text htext
  obtain ⟨c, more, rfl⟩ := List.exists_cons_of_ne_nil hne
  exact ⟨List.cons_ne_nil _ _, fun h => hapart (congrArg some (Token.char.inj (Option.some.inj h)))⟩

/-- Parameters read into the literals, escapes that are dropped and quotes: without these,
and only then, the literals are as written. -/
theorem asWritten_iff (h : frame.Writes values statement) :
    frame.AsWritten lib values (lib.parse statement.toList) ↔
      ∀ value ∈ values, '\'' ∉ value ∧ lib.parse value = chars value := by
  have hshort : List.Forall₂ (fun w v : List Token => w.length ≤ v.length)
      (values.map lib.parse) (values.map chars) := by
    refine List.forall₂_map_left_iff.mpr (List.forall₂_map_right_iff.mpr ?_)
    refine List.forall₂_same.mpr fun value _ => ?_
    rw [chars, List.length_map]
    exact lib.shrinks value
  have hmem : ∀ value : List Char, Token.char '\'' ∈ chars value ↔ '\'' ∈ value := fun value =>
    List.mem_map_of_injective fun _ _ => Token.char.inj
  rw [AsWritten, parse_statement lib h, read_fill_iff (by simp [h.1]) hshort codesApart_chars
    (restApart_parse lib)]
  simp only [List.map_inj_left, List.forall_mem_map, hmem]
  exact ⟨fun ⟨hparse, hquotes⟩ value hvalue => ⟨hquotes value hvalue, hparse value hvalue⟩,
    fun hall => ⟨fun value hvalue => (hall value hvalue).2, fun value hvalue =>
      (hall value hvalue).1⟩⟩

/-- A statement is refused exactly if a parameter that is read in it, in a literal or
behind them, has no value. -/
theorem refused_iff (h : frame.Writes values statement) :
    lib.execute params statement = .error .statementError ↔
      (∃ value ∈ values, ∃ name ∈ binds (lib.parse value), name ∉ params) ∨
        ∃ name ∈ binds (lib.parse frame.rest), name ∉ params := by
  have hopen : (∃ name ∈ binds (lib.parse statement.toList), name ∉ params) ↔
      (∃ value ∈ values, ∃ name ∈ binds (lib.parse value), name ∉ params) ∨
        ∃ name ∈ binds (lib.parse frame.rest), name ∉ params := by
    simp only [mem_binds lib h]
    constructor
    · rintro ⟨name, ⟨value, hvalue, hname⟩ | hname, hopen⟩
      · exact Or.inl ⟨value, hvalue, name, hname, hopen⟩
      · exact Or.inr ⟨name, hname, hopen⟩
    · rintro (⟨value, hvalue, name, hname, hopen⟩ | ⟨name, hname, hopen⟩)
      · exact ⟨name, Or.inl ⟨value, hvalue, hname⟩, hopen⟩
      · exact ⟨name, Or.inr hname, hopen⟩
  rw [← hopen]
  rcases lib.execute_cases params statement with ⟨hsent, hall⟩ | ⟨hrefused, hsome⟩
  · rw [hsent]
    exact ⟨nofun, fun ⟨name, hname, hno⟩ => absurd (hall name hname) hno⟩
  · exact ⟨fun _ => hsome, fun _ => hrefused⟩

/-- The statement reaches the server with its literals as written exactly if no literal
holds a quote or anything for `text()` to read, and what follows has no open parameter. -/
theorem reaches_iff (h : frame.Writes values statement) :
    frame.Reaches lib values (lib.execute params statement) ↔
      (∀ value ∈ values, '\'' ∉ value ∧ lib.parse value = chars value) ∧
        ∀ name ∈ binds (lib.parse frame.rest), name ∈ params := by
  rcases lib.execute_cases params statement with ⟨hsent, hall⟩ | ⟨hrefused, hsome⟩
  · have hrest : ∀ name ∈ binds (lib.parse frame.rest), name ∈ params := fun name hname =>
      hall name ((mem_binds lib h).mpr (Or.inr hname))
    rw [Reaches, hsent, ← asWritten_iff lib h]
    exact ⟨fun ⟨sent, hok, hread⟩ => ⟨Except.ok.inj hok ▸ hread, hrest⟩,
      fun ⟨hread, _⟩ => ⟨_, rfl, hread⟩⟩
  · rw [Reaches, hrefused]
    refine ⟨fun ⟨_, hok, _⟩ => (nomatch hok), fun ⟨hvalues, hrest⟩ => ?_⟩
    rcases (refused_iff lib h).mp hrefused with ⟨value, hvalue, name, hname, -⟩ | ⟨name, hname, hno⟩
    · rw [(hvalues value hvalue).2, binds_chars] at hname
      cases hname
    · exact absurd (hrest name hname) hno

end Frame

/-- Where a reader of names is: free to open one, held by a word or a colon, behind a
backslash, or behind a colon with what it has read of a name. -/
inductive Scan where
  | free
  | held
  | slash
  | name (escaped : Bool) (letters : List Char)
  deriving DecidableEq

namespace Scan

def isWord (c : Char) : Bool := c.isAlphanum || c = '_'

/-- What has been read and is not yet passed on. -/
def pending : Scan → List Char
  | .free => []
  | .held => []
  | .slash => ['\\']
  | .name false letters => ':' :: letters
  | .name true letters => '\\' :: ':' :: letters

@[simp] theorem pending_free : pending .free = [] := rfl

@[simp] theorem pending_held : pending .held = [] := rfl

@[simp] theorem pending_slash : pending .slash = ['\\'] := rfl

/-- What becomes of it when neither a word nor a colon follows. -/
def close : Scan → List Token
  | .name false (c :: more) => [.bind (String.ofList (c :: more))]
  | .name true letters => chars (':' :: letters)
  | scan => chars scan.pending

def pass (c : Char) : List Token × Scan :=
  if c = '\\' then ([], .slash) else ([.char c], if isWord c then .held else .free)

def step (scan : Scan) (c : Char) : List Token × Scan :=
  match scan with
  | .name escaped letters =>
    if isWord c then ([], .name escaped (letters ++ [c]))
    else if c = ':' then (chars (scan.pending ++ [':']), .held)
    else (scan.close ++ (pass c).1, (pass c).2)
  | .slash => if c = ':' then ([], .name true []) else (.char '\\' :: (pass c).1, (pass c).2)
  | .held => if c = ':' then ([.char c], .held) else pass c
  | .free => if c = ':' then ([], .name false []) else pass c

def parse : Scan → List Char → List Token
  | scan, [] => scan.close
  | scan, c :: more => (scan.step c).1 ++ parse (scan.step c).2 more

variable {scan : Scan} {c : Char} {text : List Char}

theorem step_divider (h : c ∈ dividers) : scan.step c = (scan.close ++ [.char c], .free) := by
  have hpass : pass c = ([.char c], .free) ∧ isWord c = false ∧ c ≠ ':' := by
    rcases List.mem_cons.mp h with rfl | h
    · decide
    rcases List.mem_cons.mp h with rfl | h
    · decide
    rcases List.mem_pair.mp h with rfl | rfl <;> decide
  obtain ⟨hpass, hword, hcolon⟩ := hpass
  cases scan with
  | free => simp [step, hcolon, hpass, close, chars, pending]
  | held => simp [step, hcolon, hpass, close, chars, pending]
  | slash => simp [step, hcolon, hpass, close, chars, pending]
  | name escaped letters => simp [step, hword, hcolon, hpass]

theorem parse_divided (h : c ∈ dividers) (front back : List Char) :
    parse scan (front ++ c :: back) = parse scan front ++ .char c :: parse .free back := by
  induction front generalizing scan with
  | nil => simp [parse, step_divider h]
  | cons d front ih => rw [List.cons_append, parse, parse, ih, List.append_assoc]

theorem parse_plain (h : ':' ∉ text) (hscan : ∀ escaped letters, scan ≠ .name escaped letters) :
    parse scan text = chars (scan.pending ++ text) := by
  induction text generalizing scan with
  | nil =>
    cases scan with
    | name escaped letters => exact absurd rfl (hscan escaped letters)
    | _ => rfl
  | cons c more ih =>
    obtain ⟨hcolon, hmore⟩ := List.ne_and_not_mem_of_not_mem_cons h
    have hpass : (pass c).1 ++ parse (pass c).2 more = chars (c :: more) := by
      unfold pass
      split
      · next hslash => rw [ih hmore (fun _ _ h => by cases h), hslash]; rfl
      · rw [ih hmore fun _ _ h => by split at h <;> cases h]
        split <;> rfl
    have hne := Ne.symm hcolon
    cases scan with
    | free => simpa [parse, step, hne] using hpass
    | held => simpa [parse, step, hne] using hpass
    | slash => simpa [parse, step, hne, chars] using hpass
    | name escaped letters => exact absurd rfl (hscan escaped letters)

theorem parse_name (letters : List Char) (h : ∀ c ∈ text, isWord c) :
    parse (.name false letters) text = (Scan.name false (letters ++ text)).close := by
  induction text generalizing letters with
  | nil => rw [parse, List.append_nil]
  | cons c more ih =>
    have hstep : step (.name false letters) c = ([], .name false (letters ++ [c])) :=
      if_pos (h c List.mem_cons_self)
    rw [parse, hstep, ih _ fun d hd => h d (List.mem_cons_of_mem _ hd), List.append_assoc]
    rfl

theorem length_pass (c : Char) : (pass c).1.length + (pass c).2.pending.length = 1 := by
  unfold pass
  split
  · rfl
  · split <;> rfl

theorem length_close (scan : Scan) : scan.close.length ≤ scan.pending.length := by
  unfold close
  split <;> simp [chars, pending]

theorem length_step (scan : Scan) (c : Char) :
    (scan.step c).1.length + (scan.step c).2.pending.length ≤ scan.pending.length + 1 := by
  have hpass := length_pass c
  have hclose := length_close scan
  unfold step
  split
  · next escaped letters =>
    split
    · cases escaped <;> simp [pending]
    · split
      · simp [chars]
      · simp only [List.length_append]
        omega
  · split
    · simp [pending]
    · simp only [List.length_cons, pending_slash, List.length_nil]
      omega
  · split
    · simp
    · simp only [pending_held, List.length_nil]
      omega
  · split
    · simp [pending]
    · simp only [pending_free, List.length_nil]
      omega

theorem length_parse (scan : Scan) (text : List Char) :
    (parse scan text).length ≤ scan.pending.length + text.length := by
  induction text generalizing scan with
  | nil => exact length_close scan
  | cons c more ih =>
    have hstep := length_step scan c
    have hmore := ih (scan.step c).2
    rw [parse, List.length_append, List.length_cons]
    omega

end Scan

/-- The clause of a reader whose names have letters, digits and underscores of ASCII. -/
def asciiClause : TextClause where
  parse := Scan.parse .free
  plain := fun h => Scan.parse_plain h nofun
  named := by
    intro name hne hlower
    have hword : ∀ c ∈ name, Scan.isWord c := by
      intro c hc
      change (((c.isUpper || c.isLower) || c.isDigit) || decide (c = '_')) = true
      rw [hlower c hc, Bool.or_true, Bool.true_or, Bool.true_or]
    obtain ⟨c, more, rfl⟩ := List.exists_cons_of_ne_nil hne
    exact Scan.parse_name [] hword
  divided := fun h => Scan.parse_divided h _ _
  shrinks := fun text => by simpa [Scan.pending] using Scan.length_parse .free text

example : asciiClause.parse "a:b ::c \\:d :e".toList =
    chars "a:b ::c :d ".toList ++ [.bind "e"] := by decide

end SqlText
