import CrmPortal.CorsOrigins
import CrmPortal.Library.Collapsing
import CrmPortal.Library.PositionalDigits

/-!
# The SQL_ID of a statement

`compute_oracle_sql_id` writes the last eight bytes of an MD5 digest in a base of 32
symbols. The listener on the cursor hashes the statement with its white space tidied, while
the database hashes the text that it receives. MD5 is an arbitrary function from bytes to
digests.
-/

namespace OracleSqlId

open Collapsing CorsOrigins PositionalDigits Trimming

/-- `_ORACLE_B32`. -/
def oracleB32 : Text :=
  ['0', '1', '2', '3', '4', '5', '6', '7', '8', '9', 'a', 'b', 'c', 'd', 'f', 'g',
    'h', 'j', 'k', 'm', 'n', 'p', 'q', 'r', 's', 't', 'u', 'v', 'w', 'x', 'y', 'z']

theorem oracleB32_length : oracleB32.length = 32 := by decide

theorem oracleB32_nodup : oracleB32.Nodup := by decide

theorem and_mask (n : Nat) : n &&& 0x1F = n % 32 := Nat.and_two_pow_sub_one_eq_mod n 5

theorem mask_lt (n : Nat) : n &&& 0x1F < oracleB32.length := by
  rw [and_mask, oracleB32_length]
  omega

/-- `_ORACLE_B32[sqln & 0x1F]`. -/
def symbol (sqln : Nat) : Char := oracleB32.get ⟨sqln &&& 0x1F, mask_lt sqln⟩

def encodeStep (loop : Text × Nat) : Text × Nat := (loop.1 ++ [symbol loop.2], loop.2 >>> 5)

/-- The loop of `compute_oracle_sql_id` and the reversal after it. -/
def encode (sqln : Nat) : Text := (encodeStep^[13] ([], sqln)).1.reverse

/-- The number with these symbols, the most significant one first. -/
def decode (sqlId : Text) : Nat :=
  sqlId.foldl (fun value c => value * 32 + oracleB32.idxOf c) 0

structure Digest where
  bytes : List UInt8
  length : bytes.length = 16

/-- `md5_hash[8:16]`. -/
def Digest.last8 (digest : Digest) : List UInt8 := (digest.bytes.take 16).drop 8

/-- `struct.unpack(">I", bytes)`. -/
def unpack (bytes : List UInt8) : Nat := bigEndian 256 (bytes.map UInt8.toNat)

def Digest.sqln (digest : Digest) : Nat :=
  let msb := unpack (digest.last8.take 4)
  let lsb := unpack (digest.last8.drop 4)
  msb <<< 32 ||| lsb

def utf8 (text : Text) : ByteArray := (String.ofList text).toUTF8

/-- What is hashed for a text. -/
def hashInput (sqlText : Text) : ByteArray := utf8 (sqlText ++ ['\x00'])

def computeOracleSqlId (md5 : ByteArray → Digest) (sqlText : Text) : Text :=
  encode (md5 (hashInput sqlText)).sqln

theorem symbol_mod (n : Nat) : symbol (n % 32) = symbol n := by
  have h : n % 32 &&& 0x1F = n &&& 0x1F := by rw [and_mask, and_mask, Nat.mod_mod]
  simp only [symbol, h]

theorem idxOf_symbol (n : Nat) : oracleB32.idxOf (symbol n) = n % 32 := by
  rw [symbol, List.get_idxOf oracleB32_nodup]
  exact and_mask n

theorem encodeStep_eq : encodeStep = digitStep 32 symbol := by
  funext loop
  rw [encodeStep, digitStep, symbol_mod, Nat.shiftRight_eq_div_pow]

theorem encode_eq (n : Nat) : encode n = ((lowDigits 32 13 n).map symbol).reverse := by
  rw [encode, encodeStep_eq, iterate_digitStep]
  rfl

theorem length_encode (n : Nat) : (encode n).length = 13 := by
  rw [encode_eq, List.length_reverse, List.length_map, length_lowDigits]

theorem encode_symbols (n : Nat) : ∀ c ∈ encode n, c ∈ oracleB32 := by
  intro c hc
  rw [encode_eq, List.mem_reverse] at hc
  obtain ⟨digit, -, rfl⟩ := List.mem_map.mp hc
  exact List.get_mem ..

theorem decode_eq (sqlId : Text) : decode sqlId = bigEndian 32 (sqlId.map oracleB32.idxOf) := by
  rw [decode, bigEndian, List.foldl_map]

theorem idxOf_symbol_digits (k n : Nat) :
    ((lowDigits 32 k n).map symbol).map oracleB32.idxOf = lowDigits 32 k n := by
  rw [List.map_map]
  refine (List.map_congr_left fun digit hdigit => ?_).trans (List.map_id _)
  rw [Function.comp_apply, idxOf_symbol]
  exact Nat.mod_eq_of_lt (lowDigits_lt (by decide) k n digit hdigit)

/-- Thirteen symbols of five bits hold more than 64 bits. -/
theorem decode_encode {n : Nat} (h : n < 2 ^ 64) : decode (encode n) = n := by
  rw [decode_eq, encode_eq, List.map_reverse, idxOf_symbol_digits]
  refine bigEndian_reverse_lowDigits (h.trans ?_)
  decide

theorem length_last8 (digest : Digest) : digest.last8.length = 8 := by
  rw [Digest.last8, List.length_drop, List.length_take, digest.length]
  rfl

theorem toNat_lt (bytes : List UInt8) : ∀ digit ∈ bytes.map UInt8.toNat, digit < 256 := by
  intro digit hdigit
  obtain ⟨byte, -, rfl⟩ := List.mem_map.mp hdigit
  exact byte.toNat_lt

theorem unpack_lt (bytes : List UInt8) : unpack bytes < 256 ^ bytes.length := by
  have h := bigEndian_lt (by decide) (toNat_lt bytes)
  rwa [List.length_map] at h

/-- The two halves are put together to the number with all eight bytes. -/
theorem sqln_eq (digest : Digest) : digest.sqln = unpack digest.last8 := by
  have hlen : (digest.last8.drop 4).length = 4 := by rw [List.length_drop, length_last8]
  have hlow : unpack (digest.last8.drop 4) < 2 ^ 32 := by
    have h := unpack_lt (digest.last8.drop 4)
    rwa [hlen] at h
  have hsplit : unpack digest.last8 =
      unpack (digest.last8.take 4) * 256 ^ 4 + unpack (digest.last8.drop 4) := by
    conv_lhs => rw [← List.take_append_drop 4 digest.last8]
    rw [unpack, List.map_append, bigEndian_append, List.length_map, hlen]
    rfl
  rw [Digest.sqln, ← Nat.shiftLeft_add_eq_or_of_lt hlow, Nat.shiftLeft_eq, hsplit]
  rfl

theorem sqln_lt (digest : Digest) : digest.sqln < 2 ^ 64 := by
  have h := unpack_lt digest.last8
  rwa [← sqln_eq, length_last8] at h

theorem encode_sqln_inj {d e : Digest} : encode d.sqln = encode e.sqln ↔ d.last8 = e.last8 := by
  constructor
  · intro h
    have hsqln : d.sqln = e.sqln := by
      rw [← decode_encode (sqln_lt d), h, decode_encode (sqln_lt e)]
    rw [sqln_eq, sqln_eq] at hsqln
    have hlen : (d.last8.map UInt8.toNat).length = (e.last8.map UInt8.toNat).length := by
      rw [List.length_map, List.length_map, length_last8, length_last8]
    have hbytes := bigEndian_injective (by decide) hlen (toNat_lt _) (toNat_lt _) hsqln
    exact List.map_injective_iff.mpr (fun _ _ => UInt8.toNat_inj.mp) hbytes
  · intro h
    rw [sqln_eq, sqln_eq, h]

/-- Every number of 64 bits has thirteen symbols, from which it is read back, and two
digests have the same ones only if they end in the same eight bytes. -/
theorem encoding_lossless :
    (∀ value : UInt64, (encode value.toNat).length = 13 ∧
      (∀ c ∈ encode value.toNat, c ∈ oracleB32) ∧ decode (encode value.toNat) = value.toNat) ∧
    ∀ d e : Digest, encode d.sqln = encode e.sqln → d.bytes.drop 8 = e.bytes.drop 8 := by
  refine ⟨fun value => ⟨length_encode _, encode_symbols _, decode_encode value.toNat_lt⟩, ?_⟩
  intro d e h
  have hlast := encode_sqln_inj.mp h
  rw [Digest.last8, Digest.last8, List.take_of_length_le d.length.le,
    List.take_of_length_le e.length.le] at hlast
  exact hlast

structure SpanConfig where
  oracleDsn : Text
  oracleUser : Text
  atpOcid : Text

structure Span where
  isRecording : Bool
  attributes : String → Option Text

def Span.setAttribute (span : Span) (key : String) (value : Text) : Span :=
  { span with attributes := Function.update span.attributes key (some value) }

def oracle : Text := "oracle".toList

def oracleAtp : Text := "oracle-atp".toList

def admin : Text := "ADMIN".toList

def peer : Text := "OracleATP".toList

/-- `a or b`. -/
def orElse (a b : Text) : Text := if a = [] then b else a

/-- `re.sub(r"\s+", " ", statement.strip())`. -/
def normalized (statement : Text) : Text := collapse isSpace ' ' (strip statement)

def Span.setAttributes (span : Span) (pairs : List (String × Text)) : Span :=
  pairs.foldl (fun span pair => span.setAttribute pair.1 pair.2) span

/-- The attributes of the statement, two names for each. -/
def statementAttributes (md5 : ByteArray → Digest) (statement : Text) : List (String × Text) :=
  let text := normalized statement
  let sqlId := computeOracleSqlId md5 text
  [("DbStatement", text), ("DbOracleSqlId", sqlId), ("db.statement", text.take 4096),
    ("db.oracle.sql_id", sqlId)]

/-- The attributes that place the database in the topology view. -/
def topology (cfg : SpanConfig) : List (String × Text) :=
  [("db.system", oracle),
    ("db.name", orElse cfg.oracleDsn oracleAtp),
    ("db.user", orElse cfg.oracleUser admin),
    ("component", oracle),
    ("peer.service", if cfg.oracleDsn = [] then peer
      else peer ++ [':'] ++ cfg.oracleDsn),
    ("server.address", orElse cfg.oracleDsn oracleAtp),
    ("db.connection_string", cfg.oracleDsn)] ++
  if cfg.atpOcid = [] then [] else [("db.oracle.atp_ocid", cfg.atpOcid)]

def enrichSpanBeforeExecute (md5 : ByteArray → Digest) (cfg : SpanConfig) (statement : Text)
    (span : Span) : Span :=
  if span.isRecording then
    (if statement = [] then span
      else span.setAttributes (statementAttributes md5 statement)).setAttributes (topology cfg)
  else span

def sqlIdOf (span : Span) : Option Text := span.attributes "DbOracleSqlId"

theorem attributes_setAttributes {key : String} {pairs : List (String × Text)} {span : Span}
    (h : ∀ pair ∈ pairs, key ≠ pair.1) :
    (span.setAttributes pairs).attributes key = span.attributes key := by
  induction pairs generalizing span with
  | nil => rfl
  | cons pair pairs ih =>
    obtain ⟨hhead, htail⟩ := List.forall_mem_cons.mp h
    calc ((span.setAttribute pair.1 pair.2).setAttributes pairs).attributes key
        = (span.setAttribute pair.1 pair.2).attributes key := ih htail
      _ = span.attributes key := Function.update_of_ne hhead ..

theorem topology_keys (cfg : SpanConfig) :
    ∀ pair ∈ topology cfg, "DbOracleSqlId" ≠ pair.1 := by
  by_cases h : cfg.atpOcid = []
  · simp [topology, h]
  · simp [topology, h]

theorem sqlIdOf_setTopology (cfg : SpanConfig) (span : Span) :
    sqlIdOf (span.setAttributes (topology cfg)) = sqlIdOf span :=
  attributes_setAttributes (topology_keys cfg)

theorem sqlIdOf_setStatement (md5 : ByteArray → Digest) (statement : Text) (span : Span) :
    sqlIdOf (span.setAttributes (statementAttributes md5 statement)) =
      some (computeOracleSqlId md5 (normalized statement)) := by
  simp [sqlIdOf, statementAttributes, Span.setAttributes, Span.setAttribute, Function.update]

/-- What the listener leaves under the key of the SQL_ID: an empty statement sets none. -/
theorem sqlIdOf_enrich {md5 : ByteArray → Digest} {cfg : SpanConfig} {statement : Text}
    {span : Span} (h : span.isRecording = true) :
    sqlIdOf (enrichSpanBeforeExecute md5 cfg statement span) =
      if statement = [] then sqlIdOf span
      else some (computeOracleSqlId md5 (normalized statement)) := by
  rw [enrichSpanBeforeExecute, if_pos h, sqlIdOf_setTopology]
  split
  · rfl
  · exact sqlIdOf_setStatement md5 statement span

/-- Not an outer blank, and every inner run of white space is one blank. -/
structure SingleSpaced (statement : Text) : Prop where
  trimmed : strip statement = statement
  collapsed : Collapsed isSpace ' ' statement

theorem normalized_eq_self_iff {statement : Text} :
    normalized statement = statement ↔ SingleSpaced statement := by
  unfold normalized strip
  rw [collapse_trim_eq_self_iff]
  exact ⟨fun h => ⟨h.1, h.2⟩, fun h => ⟨h.trimmed, h.collapsed⟩⟩

theorem singleSpaced_normalized (statement : Text) : SingleSpaced (normalized statement) :=
  normalized_eq_self_iff.mp collapse_trim_idem

/-- The texts hash to digests with the same end. -/
def HashesCollide (md5 : ByteArray → Digest) (s t : Text) : Prop :=
  (md5 (hashInput s)).last8 = (md5 (hashInput t)).last8

theorem computeOracleSqlId_eq_iff {md5 : ByteArray → Digest} {s t : Text} :
    computeOracleSqlId md5 s = computeOracleSqlId md5 t ↔ HashesCollide md5 s t :=
  encode_sqln_inj

theorem hashInput_injective {s t : Text} (h : hashInput s = hashInput t) : s = t := by
  have hstring : String.ofList (s ++ ['\x00']) = String.ofList (t ++ ['\x00']) :=
    String.toByteArray_inj.mp h
  exact List.append_cancel_right (String.ofList_injective hstring)

def constantDigest (byte : UInt8) : Digest := ⟨List.replicate 16 byte, List.length_replicate⟩

/-- A hash that tells one text from all others. -/
def markingHash (marked : Text) (bytes : ByteArray) : Digest :=
  constantDigest (if bytes.data = (hashInput marked).data then 1 else 0)

theorem hashesCollide_markingHash_iff {marked s t : Text} :
    HashesCollide (markingHash marked) s t ↔ (s = marked ↔ t = marked) := by
  have hinput : ∀ u : Text, (hashInput u).data = (hashInput marked).data ↔ u = marked :=
    fun u => ⟨fun h => hashInput_injective (ByteArray.ext h),
      congrArg fun text => (hashInput text).data⟩
  have hends : (constantDigest 1).last8 ≠ (constantDigest 0).last8 := by decide
  simp only [HashesCollide, markingHash, hinput]
  by_cases hs : s = marked <;> by_cases ht : t = marked <;> simp [hs, ht, hends, hends.symm]

/-- Whatever the hash, a recording span gets the SQL_ID of the executed text; an empty
statement sets none. -/
def RecordsExactly (statement : Text) : Prop :=
  ∀ md5 cfg span, span.isRecording = true →
    sqlIdOf (enrichSpanBeforeExecute md5 cfg statement span) =
      if statement = [] then sqlIdOf span else some (computeOracleSqlId md5 statement)

/-- Whatever the hash, two recording spans get one SQL_ID for the texts only if they are the
same or their hashes collide. -/
def SharedOnlyByCollision (s t : Text) : Prop :=
  ∀ md5 cfg (first second : Span), first.isRecording = true → second.isRecording = true →
    sqlIdOf (enrichSpanBeforeExecute md5 cfg s first) =
      sqlIdOf (enrichSpanBeforeExecute md5 cfg t second) → s = t ∨ HashesCollide md5 s t

def recordingSpan : Span := ⟨true, fun _ => none⟩

def sampleConfig : SpanConfig := ⟨[], [], []⟩

theorem recordsExactly_iff_collide (statement : Text) : RecordsExactly statement ↔
    statement = [] ∨ ∀ md5, HashesCollide md5 (normalized statement) statement := by
  by_cases hempty : statement = []
  · simp only [hempty, true_or, iff_true]
    intro md5 cfg span hspan
    exact sqlIdOf_enrich hspan
  · have hid : ∀ md5 cfg span, span.isRecording = true →
        (sqlIdOf (enrichSpanBeforeExecute md5 cfg statement span) =
          (if statement = [] then sqlIdOf span else some (computeOracleSqlId md5 statement)) ↔
        HashesCollide md5 (normalized statement) statement) := by
      intro md5 cfg span hspan
      rw [sqlIdOf_enrich hspan, if_neg hempty, if_neg hempty, Option.some.injEq,
        computeOracleSqlId_eq_iff]
    simp only [hempty, false_or]
    constructor
    · intro h md5
      exact (hid md5 sampleConfig recordingSpan rfl).mp (h md5 sampleConfig recordingSpan rfl)
    · intro h md5 cfg span hspan
      exact (hid md5 cfg span hspan).mpr (h md5)

theorem recordsExactly_iff (statement : Text) :
    RecordsExactly statement ↔ SingleSpaced statement := by
  rw [recordsExactly_iff_collide, ← normalized_eq_self_iff]
  constructor
  · rintro (rfl | h)
    · rfl
    · exact (hashesCollide_markingHash_iff.mp (h (markingHash statement))).mpr rfl
  · intro h
    rw [h]
    exact Or.inr fun _ => rfl

theorem sharedOnlyByCollision_iff {s t : Text} (hs : s ≠ []) (ht : t ≠ []) :
    SharedOnlyByCollision s t ↔ s = t ∨ (SingleSpaced s ∧ SingleSpaced t) := by
  have hshared : ∀ md5 cfg (first second : Span), first.isRecording = true →
      second.isRecording = true → (sqlIdOf (enrichSpanBeforeExecute md5 cfg s first) =
        sqlIdOf (enrichSpanBeforeExecute md5 cfg t second) ↔
      HashesCollide md5 (normalized s) (normalized t)) := by
    intro md5 cfg first second hfirst hsecond
    rw [sqlIdOf_enrich hfirst, sqlIdOf_enrich hsecond, if_neg hs, if_neg ht, Option.some.injEq,
      computeOracleSqlId_eq_iff]
  constructor
  · intro h
    have hmark : ∀ marked, (normalized s = marked ↔ normalized t = marked) →
        s = t ∨ (s = marked ↔ t = marked) := by
      intro marked hboth
      have hcollide := hashesCollide_markingHash_iff.mpr hboth
      exact (h (markingHash marked) sampleConfig recordingSpan recordingSpan rfl rfl
        ((hshared _ _ _ _ rfl rfl).mpr hcollide)).imp_right hashesCollide_markingHash_iff.mp
    by_cases hst : s = t
    · exact Or.inl hst
    -- A text that is not single spaced is no normal form, so the mark is on it alone.
    have hspaced : ∀ u, (u = s ∨ u = t) → SingleSpaced u := by
      intro u hu
      by_contra hnot
      have hnever : ∀ v, normalized v ≠ u := by
        intro v hv
        exact hnot (hv ▸ singleSpaced_normalized v)
      rcases hmark u ⟨fun hv => absurd hv (hnever s), fun hv => absurd hv (hnever t)⟩
        with heq | hiff
      · exact hst heq
      · rcases hu with rfl | rfl
        · exact hst (hiff.mp rfl).symm
        · exact hst (hiff.mpr rfl)
    exact Or.inr ⟨hspaced s (Or.inl rfl), hspaced t (Or.inr rfl)⟩
  · rintro (heq | ⟨hspaced, tspaced⟩)
    · exact fun _ _ _ _ _ _ _ => Or.inl heq
    · intro md5 cfg first second hfirst hsecond hsame
      have hcollide := (hshared md5 cfg first second hfirst hsecond).mp hsame
      rw [normalized_eq_self_iff.mpr hspaced, normalized_eq_self_iff.mpr tspaced] at hcollide
      exact Or.inr hcollide

/-- A text gets its own SQL_ID, and two texts share one only by collision, exactly where the
listener has no white space to tidy. -/
theorem sqlId_recorded_iff (s t : Text) :
    (RecordsExactly s ↔ SingleSpaced s) ∧
    (s ≠ [] → t ≠ [] →
      (SharedOnlyByCollision s t ↔ s = t ∨ (SingleSpaced s ∧ SingleSpaced t))) :=
  ⟨recordsExactly_iff s, sharedOnlyByCollision_iff⟩

/-- `SELECT 'a b'`. -/
def oneBlank : Text := ['S', 'E', 'L', 'E', 'C', 'T', ' ', '\'', 'a', ' ', 'b', '\'']

/-- `SELECT 'a  b'`. -/
def twoBlanks : Text := ['S', 'E', 'L', 'E', 'C', 'T', ' ', '\'', 'a', ' ', ' ', 'b', '\'']

theorem normalized_twoBlanks : normalized twoBlanks = oneBlank := by decide

/-- `SELECT 1`. -/
def selectOne : Text := ['S', 'E', 'L', 'E', 'C', 'T', ' ', '1']

theorem oneBlank_spaced : SingleSpaced oneBlank := normalized_eq_self_iff.mp (by decide)

theorem selectOne_spaced : SingleSpaced selectOne := normalized_eq_self_iff.mp (by decide)

theorem sqlId_recorded_blanks :
    RecordsExactly oneBlank ∧ SharedOnlyByCollision oneBlank selectOne := by
  obtain ⟨hrecords, hshared⟩ := sqlId_recorded_iff oneBlank selectOne
  exact ⟨hrecords.mpr oneBlank_spaced,
    (hshared (by decide) (by decide)).mpr (Or.inr ⟨oneBlank_spaced, selectOne_spaced⟩)⟩

/-- Two queries for different texts get one SQL_ID, and the one recorded for the second is
that of the first. -/
theorem twoBlanks_shares_sqlId :
    ¬ RecordsExactly twoBlanks ∧ ¬ SharedOnlyByCollision oneBlank twoBlanks := by
  have hspaced : ¬ SingleSpaced twoBlanks := by
    rw [← normalized_eq_self_iff, normalized_twoBlanks]
    decide
  refine ⟨fun h => hspaced ((recordsExactly_iff twoBlanks).mp h), fun h => ?_⟩
  rcases (sharedOnlyByCollision_iff (by decide) (by decide)).mp h with heq | hboth
  · exact absurd heq (by decide)
  · exact hspaced hboth.2

end OracleSqlId
