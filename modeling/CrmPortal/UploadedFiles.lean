import CrmPortal.PyValue
import CrmPortal.Library.DirectoryWalk
import CrmPortal.Library.LastWins
import Mathlib.Data.List.Infix

/-!
# Uploaded files

`upload_file` and `download_file` join a name of the caller to the upload directory. The
download reports a name that starts at the root or has two dots in a row, the upload one
with a dangerous extension; neither refuses any. Symbolic links are left out.
-/

namespace UploadedFiles

open PyValue DirectoryWalk

abbrev Text := List Char

abbrev FileTree := Tree Text (List UInt8)

/-- What stands between the slashes. -/
def segments : Text → List Text
  | [] => [[]]
  | c :: rest =>
    if c = '/' then [] :: segments rest
    else match segments rest with
      | [] => [[c]]
      | segment :: more => (c :: segment) :: more

def component (segment : Text) : Component Text :=
  if segment = [] ∨ segment = ['.'] then .stay
  else if segment = ['.', '.'] then .up
  else .down segment

/-- Where an absolute path leads. -/
def resolve (tree : FileTree) (path : Text) : Option (Place Text) :=
  walk tree.isDirectory [] ((segments path).map component)

/-- `os.path.join(a, b)`. -/
def osPathJoin (a b : Text) : Text :=
  if b.head? = some '/' then b
  else if a = [] ∨ a.getLast? = some '/' then a ++ b
  else a ++ '/' :: b

/-- The name of a directory entry. -/
def Proper (name : Text) : Prop :=
  name ≠ [] ∧ name ≠ ['.'] ∧ name ≠ ['.', '.'] ∧ '/' ∉ name

/-- The text of an absolute path down these names. -/
def textOf (names : List Text) : Text := names.flatMap fun name => '/' :: name

/-- The directory that `mkdtemp` has made. -/
structure UploadDir where
  names : List Text
  proper : ∀ name ∈ names, Proper name
  below : names ≠ []

def UploadDir.text (dir : UploadDir) : Text := textOf dir.names

/-- `takes` tells where the operating system lets a file be written. -/
structure FilesEnv where
  py : Builtins
  uploadDir : UploadDir
  takes : Place Text → Bool

def dangerousExtensions : List String := [".exe", ".bat", ".sh", ".php", ".jsp", ".py", ".ps1"]

/-- `text.endswith(ext)`. -/
def endsWith (text ext : String) : Bool := decide (ext.toList <:+ text.toList)

structure Upload where
  filename : Option String
  content : List UInt8

/-- `file.filename or "unnamed"`. -/
def Upload.name (upload : Upload) : String :=
  match upload.filename with
  | none => "unnamed"
  | some filename => if filename = "" then "unnamed" else filename

def Upload.reported (py : Builtins) (upload : Upload) : Bool :=
  upload.filename.any fun filename => decide (filename ≠ "") &&
    dangerousExtensions.any fun ext => endsWith (py.lower filename) ext

def FilesEnv.filepath (env : FilesEnv) (name : String) : Text :=
  osPathJoin env.uploadDir.text name.toList

/-- Whether the upload is reported, and the tree after it; `none` where `open` raises. -/
def uploadFile (env : FilesEnv) (upload : Upload) (tree : FileTree) : Bool × Option FileTree :=
  (upload.reported env.py,
    match resolve tree (env.filepath upload.name) with
    | none => none
    | some place => if env.takes place then tree.write place upload.content else none)

inductive Reply where
  | file (content : List UInt8)
  | notFound (path : Text)
  | failed
deriving DecidableEq

/-- A directory exists, and fails when it is sent. The files of the tree are those that the
process can read. -/
def downloadFile (env : FilesEnv) (path : String) (tree : FileTree) : Bool × Reply :=
  (decide ("..".toList <:+: path.toList) || decide (path.toList.head? = some '/'),
    match resolve tree (env.filepath path) with
    | none => .notFound (env.filepath path)
    | some place =>
      if tree.isDirectory place then .failed
      else match tree.file place with
        | some content => .file content
        | none => .notFound (env.filepath path))

/-- The tree after some uploads; one whose file cannot be opened changes nothing. -/
def uploads (env : FilesEnv) (ups : List Upload) (tree : FileTree) : FileTree :=
  ups.foldl (fun tree upload => (uploadFile env upload tree).2.getD tree) tree

theorem segments_ne_nil (text : Text) : segments text ≠ [] := by
  cases text with
  | nil => exact List.cons_ne_nil _ _
  | cons c rest =>
    unfold segments
    split
    · exact List.cons_ne_nil _ _
    · split
      · exact List.cons_ne_nil _ _
      · exact List.cons_ne_nil _ _

theorem segments_slash (a b : Text) : segments (a ++ '/' :: b) = segments a ++ segments b := by
  induction a with
  | nil => simp [segments]
  | cons c rest ih =>
    rw [List.cons_append, segments, segments]
    split
    · rw [ih]
      rfl
    · rw [ih]
      obtain ⟨segment, more, hsegments⟩ := List.exists_cons_of_ne_nil (segments_ne_nil rest)
      rw [hsegments]
      rfl

theorem segments_name {name : Text} (h : '/' ∉ name) : segments name = [name] := by
  induction name with
  | nil => rfl
  | cons c rest ih =>
    obtain ⟨hc, hrest⟩ := List.ne_and_not_mem_of_not_mem_cons h
    rw [segments, if_neg (Ne.symm hc), ih hrest]

theorem component_proper {name : Text} (h : Proper name) : component name = .down name := by
  obtain ⟨hempty, hdot, hdots, -⟩ := h
  unfold component
  rw [if_neg (by rintro (heq | heq); exacts [hempty heq, hdot heq]), if_neg hdots]

/-- The path down some names stays at the root once, and then goes down. -/
theorem components_textOf {names : List Text} (h : ∀ name ∈ names, Proper name) :
    (segments (textOf names)).map component = .stay :: names.map .down := by
  induction names using List.reverseRecOn with
  | nil => rfl
  | append_singleton init last ih =>
    have hlast : Proper last := h last (List.mem_append_right _ (List.mem_singleton_self last))
    have hinit := ih fun name hname => h name (List.mem_append_left _ hname)
    have htext : textOf (init ++ [last]) = textOf init ++ '/' :: last := by
      simp [textOf]
    rw [htext, segments_slash, segments_name hlast.2.2.2, List.map_append, hinit, List.map_append,
      List.map_singleton, List.map_singleton, component_proper hlast]
    rfl

theorem up_of_component {segment : Text} (h : component segment = .up) : segment = ['.', '.'] := by
  unfold component at h
  split at h
  · cases h
  · split at h
    · assumption
    · cases h

theorem segments_head {text segment : Text} {more : List Text}
    (h : segments text = segment :: more) : segment <+: text := by
  induction text generalizing segment more with
  | nil =>
    obtain ⟨rfl, -⟩ := List.cons.inj h
    exact List.nil_prefix
  | cons c rest ih =>
    unfold segments at h
    split at h
    · obtain ⟨rfl, -⟩ := List.cons.inj h
      exact List.nil_prefix
    · obtain ⟨first, others, hrest⟩ := List.exists_cons_of_ne_nil (segments_ne_nil rest)
      rw [hrest] at h
      obtain ⟨rfl, -⟩ := List.cons.inj h
      exact List.cons_prefix_cons.mpr ⟨rfl, ih hrest⟩

/-- A segment is a part of the text. -/
theorem segment_infix {text segment : Text} (h : segment ∈ segments text) : segment <:+: text := by
  induction text generalizing segment with
  | nil =>
    obtain rfl := List.mem_singleton.mp h
    exact List.infix_rfl
  | cons c rest ih =>
    rcases hsegments : segments (c :: rest) with _ | ⟨first, others⟩
    · exact absurd hsegments (segments_ne_nil _)
    · rw [hsegments] at h
      rcases List.mem_cons.mp h with rfl | hothers
      · exact (segments_head hsegments).isInfix
      · refine List.infix_cons (ih ?_)
        unfold segments at hsegments
        split at hsegments
        · obtain ⟨-, rfl⟩ := List.cons.inj hsegments
          exact hothers
        · obtain ⟨head, tail, hrest⟩ := List.exists_cons_of_ne_nil (segments_ne_nil rest)
          rw [hrest] at hsegments
          obtain ⟨-, rfl⟩ := List.cons.inj hsegments
          rw [hrest]
          exact List.mem_cons_of_mem _ hothers

/-- A name that does not start at the root is joined to the directory. -/
theorem filepath_relative (dir : UploadDir) {path : Text} (h : path.head? ≠ some '/') :
    osPathJoin dir.text path = dir.text ++ '/' :: path := by
  obtain ⟨init, last, hnames⟩ := (List.eq_nil_or_concat dir.names).resolve_left dir.below
  rw [List.concat_eq_append] at hnames
  obtain ⟨hlast, -, -, hslash⟩ := dir.proper last (by rw [hnames]; simp)
  have htext : dir.text = textOf init ++ '/' :: last := by
    unfold UploadDir.text
    rw [hnames]
    simp [textOf]
  have hend : dir.text.getLast? ≠ some '/' := by
    rw [htext, List.getLast?_append_of_ne_nil _ (List.cons_ne_nil _ _),
      List.getLast?_cons_of_ne_nil hlast]
    intro heq
    exact hslash (List.mem_of_getLast? heq)
  have hne : dir.text ≠ [] := by
    rw [htext]
    exact List.append_ne_nil_of_right_ne_nil _ (List.cons_ne_nil _ _)
  unfold osPathJoin
  rw [if_neg h, if_neg (by rintro (heq | heq); exacts [hne heq, hend heq])]

theorem down_never_up {down : List Text} {c : Component Text}
    (h : c ∈ .stay :: down.map .down) : c ≠ .up := by
  rcases List.mem_cons.mp h with rfl | hdown
  · rintro ⟨⟩
  · obtain ⟨name, -, rfl⟩ := List.mem_map.mp hdown
    rintro ⟨⟩

theorem names_map_down (down : List Text) : names (down.map .down) = down := by
  induction down with
  | nil => rfl
  | cons name rest ih => rw [List.map_cons, names, ih]

/-- A relative name without two dots in a row stays in the upload directory. -/
theorem resolve_inside {dir : UploadDir} {tree : FileTree} {path : Text} {place : Place Text}
    (hroot : path.head? ≠ some '/') (hdots : ¬ ['.', '.'] <:+: path)
    (h : resolve tree (osPathJoin dir.text path) = some place) :
    place = dir.names ++ names ((segments path).map component) := by
  rw [filepath_relative dir hroot, resolve, segments_slash, List.map_append, UploadDir.text,
    components_textOf dir.proper, walk_append] at h
  obtain ⟨reached, hdown, hrest⟩ := Option.bind_eq_some_iff.mp h
  have hreached : reached = dir.names := by
    have hplace := walk_of_no_up (fun c hc => down_never_up hc) hdown
    rwa [names, names_map_down, List.nil_append] at hplace
  rw [hreached] at hrest
  refine walk_of_no_up ?_ hrest
  rintro c hc rfl
  obtain ⟨segment, hsegment, hup⟩ := List.mem_map.mp hc
  exact hdots (up_of_component hup ▸ segment_infix hsegment)

theorem downloadFile_file_iff {env : FilesEnv} {path : String} {tree : FileTree}
    {content : List UInt8} : (downloadFile env path tree).2 = .file content ↔
      ∃ place, resolve tree (env.filepath path) = some place ∧ tree.file place = some content := by
  unfold downloadFile
  constructor
  · intro h
    dsimp only at h
    split at h
    · cases h
    · next place hresolve =>
      split at h
      · cases h
      · split at h
        · next found hfile =>
          obtain rfl := Reply.file.inj h
          exact ⟨place, hresolve, hfile⟩
        · cases h
  · rintro ⟨place, hresolve, hfile⟩
    have hplace : tree.isDirectory place ≠ true := by
      intro hdirectory
      rw [tree.apart place hdirectory] at hfile
      cases hfile
    simp only [hresolve, if_neg hplace, hfile]

/-- A name without a report leads to a place below the upload directory, and any file that
the process can read is served, with a report, under its absolute path. -/
theorem unreported_download_inside (env : FilesEnv) (tree : FileTree) (path : String)
    (content : List UInt8) :
    (downloadFile env path tree = (false, .file content) →
      tree.file (env.uploadDir.names ++ names ((segments path.toList).map component)) =
        some content) ∧
    ∀ place, (∀ name ∈ place, Proper name) → place ≠ [] →
      (∀ front, front <+: place → front ≠ place → tree.isDirectory front = true) →
      tree.file place = some content →
      downloadFile env (String.ofList (textOf place)) tree = (true, .file content) := by
  constructor
  · intro h
    have hreport : (downloadFile env path tree).1 = false := by rw [h]
    obtain ⟨hdots, hroot⟩ := Bool.or_eq_false_iff.mp hreport
    have hreply : (downloadFile env path tree).2 = .file content := by rw [h]
    obtain ⟨place, hresolve, hfile⟩ := downloadFile_file_iff.mp hreply
    obtain rfl := resolve_inside (of_decide_eq_false hroot) (of_decide_eq_false hdots) hresolve
    exact hfile
  · intro place hproper hne hdirectories hfile
    have hhead : (textOf place).head? = some '/' := by
      obtain ⟨first, rest, rfl⟩ := List.exists_cons_of_ne_nil hne
      rfl
    have hresolve : resolve tree (env.filepath (String.ofList (textOf place))) = some place := by
      have hroot : tree.isDirectory [] = true :=
        hdirectories [] List.nil_prefix (Ne.symm hne)
      unfold FilesEnv.filepath osPathJoin resolve
      rw [String.toList_ofList, if_pos hhead, components_textOf hproper, walk, if_pos hroot, move,
        walk_down (by simpa using hdirectories)]
      rfl
    have hreply := downloadFile_file_iff.mpr ⟨place, hresolve, hfile⟩
    refine Prod.ext ?_ hreply
    have hreport : decide ((String.ofList (textOf place)).toList.head? = some '/') = true := by
      rw [String.toList_ofList]
      exact decide_eq_true hhead
    exact Bool.or_eq_true_iff.mpr (Or.inr hreport)

def samplePlace : Place Text := ["tmp".toList, "a".toList]

def sampleEnv : FilesEnv where
  py := asciiBuiltins fun _ => ""
  uploadDir := {
    names := ["tmp".toList]
    proper := by unfold Proper; decide
    below := List.cons_ne_nil _ _ }
  takes := fun _ => true

def sampleTree : FileTree where
  isDirectory place := decide (place = []) || decide (place = ["tmp".toList])
  file place := if place = samplePlace then some [7] else none
  apart := by
    intro place h
    rcases Bool.or_eq_true_iff.mp h with h | h
    · rw [of_decide_eq_true h]
      decide
    · rw [of_decide_eq_true h]
      decide

theorem unreported_download_inside_sample :
    sampleTree.file ["tmp".toList, "a".toList] = some [7] ∧
      downloadFile sampleEnv "/tmp/a" sampleTree = (true, .file [7]) := by
  obtain ⟨hinside, hanywhere⟩ := unreported_download_inside sampleEnv sampleTree "a" [7]
  refine ⟨hinside (by decide), hanywhere samplePlace ?_ (List.cons_ne_nil _ _) ?_ (by decide)⟩
  · unfold Proper samplePlace
    decide
  · intro front hfront hne
    have hinits := (List.mem_inits front samplePlace).mpr hfront
    simp only [samplePlace, List.inits, List.map_cons, List.map_nil, List.mem_cons,
      List.not_mem_nil, or_false] at hinits
    rcases hinits with rfl | rfl | rfl
    · decide
    · decide
    · exact absurd rfl hne

/-- Where an upload is written, if it is. -/
def landing (env : FilesEnv) (tree : FileTree) (upload : Upload) : Option (Place Text) :=
  (resolve tree (env.filepath upload.name)).filter fun place =>
    env.takes place && !tree.isDirectory place

/-- A tree is written to without a change of its directories. -/
theorem resolve_congr {tree other : FileTree} (h : other.isDirectory = tree.isDirectory)
    (path : Text) : resolve other path = resolve tree path := by
  unfold resolve
  rw [h]

theorem landing_congr {tree other : FileTree} (env : FilesEnv)
    (h : other.isDirectory = tree.isDirectory) (upload : Upload) :
    landing env other upload = landing env tree upload := by
  unfold landing
  rw [resolve_congr h, h]

/-- What one upload does to the tree. -/
theorem uploadFile_tree (env : FilesEnv) (upload : Upload) (tree : FileTree) :
    let after := (uploadFile env upload tree).2.getD tree
    after.isDirectory = tree.isDirectory ∧ ∀ place, after.file place =
      if landing env tree upload = some place then some upload.content else tree.file place := by
  dsimp only
  rcases hresolve : resolve tree (env.filepath upload.name) with _ | target
  · simp [uploadFile, landing, hresolve]
  · rcases htakes : env.takes target with _ | _
    · simp [uploadFile, landing, hresolve, htakes]
    · rcases hdirectory : tree.isDirectory target with _ | _
      · obtain ⟨after, hafter⟩ :
            ∃ after, tree.write target upload.content = some after := Tree.write_isSome hdirectory
        obtain ⟨-, hsame, hfile⟩ := Tree.write_eq_some hafter
        simp only [uploadFile, landing, hresolve, htakes, if_true, hafter, Option.getD_some]
        refine ⟨hsame, fun place => ?_⟩
        rw [hfile]
        simp [Option.filter, htakes, hdirectory, eq_comm]
      · have hnone : tree.write target upload.content = none := by
          unfold Tree.write
          rw [dif_pos hdirectory]
        simp [uploadFile, landing, hresolve, htakes, hnone, hdirectory]

/-- The uploads by the place where they are written. -/
def written (env : FilesEnv) (tree : FileTree) (ups : List Upload) : Place Text → Option Upload :=
  LastWins.build (fun upload => (landing env tree upload).toList) ups

theorem uploads_tree (env : FilesEnv) (ups : List Upload) (tree : FileTree) :
    (uploads env ups tree).isDirectory = tree.isDirectory ∧
      ∀ place, (uploads env ups tree).file place =
        ((written env tree ups place).map Upload.content).or (tree.file place) := by
  induction ups using List.reverseRecOn with
  | nil => exact ⟨rfl, fun place => rfl⟩
  | append_singleton done upload ih =>
    obtain ⟨hdirectories, hfiles⟩ := ih
    have hlast : uploads env (done ++ [upload]) tree =
        (uploadFile env upload (uploads env done tree)).2.getD (uploads env done tree) := by
      unfold uploads
      rw [List.foldl_append, List.foldl_cons, List.foldl_nil]
    obtain ⟨hsame, hwrite⟩ := uploadFile_tree env upload (uploads env done tree)
    rw [hlast]
    refine ⟨hsame.trans hdirectories, fun place => ?_⟩
    have hwritten : written env tree (done ++ [upload]) place =
        if landing env tree upload = some place then some upload
        else written env tree done place := by
      unfold written LastWins.build
      rw [List.foldl_append, List.foldl_cons, List.foldl_nil, LastWins.file_apply]
      simp only [Option.mem_toList]
    rw [hwrite, landing_congr env hdirectories, hwritten, hfiles]
    split <;> rfl

theorem written_eq_none {env : FilesEnv} {tree : FileTree} {ups : List Upload}
    {place : Place Text} :
    written env tree ups place = none ↔ ∀ upload ∈ ups, landing env tree upload ≠ some place := by
  constructor
  · intro h upload hupload hlanding
    have hsome : (written env tree ups place).isSome :=
      LastWins.build_isSome hupload (Option.mem_toList.mpr hlanding)
    rw [h] at hsome
    cases hsome
  · intro h
    rcases hwritten : written env tree ups place with _ | upload
    · rfl
    · obtain ⟨hupload, hplace⟩ := LastWins.build_mem hwritten
      exact absurd (Option.mem_toList.mp hplace) (h upload hupload)

/-- After any run of uploads a path is served with the content of the last upload that was
written where it leads, or with the file that was there before them. -/
theorem download_after_uploads (env : FilesEnv) (ups : List Upload) (tree : FileTree)
    (path : String) (content : List UInt8) :
    (downloadFile env path (uploads env ups tree)).2 = .file content ↔
      ∃ place, resolve tree (env.filepath path) = some place ∧
        ((∃ before upload after, ups = before ++ upload :: after ∧
            landing env tree upload = some place ∧ upload.content = content ∧
            ∀ later ∈ after, landing env tree later ≠ some place) ∨
          ((∀ upload ∈ ups, landing env tree upload ≠ some place) ∧
            tree.file place = some content)) := by
  obtain ⟨hdirectories, hfiles⟩ := uploads_tree env ups tree
  rw [downloadFile_file_iff, resolve_congr hdirectories]
  refine exists_congr fun place => and_congr_right fun _ => ?_
  rw [hfiles, Option.or_eq_some_iff, Option.map_eq_some_iff, Option.map_eq_none_iff,
    written_eq_none]
  refine or_congr ?_ Iff.rfl
  constructor
  · rintro ⟨upload, hwritten, hcontent⟩
    obtain ⟨before, after, hsplit, hplace, hafter⟩ := LastWins.build_eq_some_iff.mp hwritten
    refine ⟨before, upload, after, hsplit, Option.mem_toList.mp hplace, hcontent, ?_⟩
    intro later hlater hlanding
    exact hafter later hlater (Option.mem_toList.mpr hlanding)
  · rintro ⟨before, upload, after, hsplit, hplace, hcontent, hafter⟩
    refine ⟨upload, LastWins.build_eq_some_iff.mpr ⟨before, after, hsplit, ?_, ?_⟩, hcontent⟩
    · exact Option.mem_toList.mpr hplace
    · intro later hlater hlanding
      exact hafter later hlater (Option.mem_toList.mp hlanding)

end UploadedFiles
