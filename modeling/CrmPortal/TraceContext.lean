import CrmPortal.Library.HexText
import Mathlib.Data.List.Chain

/-!
# Trace contexts and correlation ids

A request is given the id of the active trace as its correlation id, else the id that the
caller sent, else a new one; what it asks of other services carries both the correlation id
and the trace. Along a chain of services the correlation id stays the same exactly as long as
no service starts a trace of its own after one that has none.
-/

namespace TraceContext

open HexText

abbrev Text := List Char

/-- The flags are one byte. -/
structure SpanContext where
  traceId : Nat
  spanId : Nat
  traceFlags : Nat
  flagsByte : traceFlags < 256

def ValidId (width id : Nat) : Prop := 0 < id ∧ id < 16 ^ width

instance (width id : Nat) : Decidable (ValidId width id) :=
  inferInstanceAs (Decidable (0 < id ∧ id < 16 ^ width))

def SpanContext.isValid (ctx : SpanContext) : Bool :=
  decide (ValidId 32 ctx.traceId ∧ ValidId 16 ctx.spanId)

structure CurrentContext where
  traceId : Text
  spanId : Text
  traceparent : Text

def noContext : CurrentContext := ⟨[], [], []⟩

def traceparentText (ctx : SpanContext) : Text :=
  ['0', '0', '-'] ++ (hexText 32 ctx.traceId ++ '-' ::
    (hexText 16 ctx.spanId ++ '-' :: hexText 2 ctx.traceFlags))

def currentTraceContext (active : Option SpanContext) : CurrentContext :=
  match active with
  | none => noContext
  | some ctx =>
    if ctx.isValid then ⟨hexText 32 ctx.traceId, hexText 16 ctx.spanId, traceparentText ctx⟩
    else noContext

/-- `fresh` is the `uuid4().hex` of the call. -/
def buildCorrelationId (active : Option SpanContext) (seed fresh : Text) : Text :=
  let traceId := (currentTraceContext active).traceId
  if traceId ≠ [] then traceId else if seed ≠ [] then seed else fresh

structure ServiceConfig where
  otelServiceName : Text
  serviceNamespace : Text
  appVersion : Text
  demoStackName : Text
  atpConnectionName : Text

def outboundHeaders (cfg : ServiceConfig) (active : Option SpanContext)
    (correlationId fresh : Text) : List (String × Text) :=
  let traceparent := (currentTraceContext active).traceparent
  [("X-Correlation-Id", buildCorrelationId active correlationId fresh),
    ("X-Service-Name", cfg.otelServiceName),
    ("X-Service-Namespace", cfg.serviceNamespace),
    ("X-Service-Version", cfg.appVersion),
    ("X-OCTO-Stack", cfg.demoStackName)] ++
  (if cfg.atpConnectionName ≠ [] then [("X-Database-Connection", cfg.atpConnectionName)] else []) ++
  (if traceparent ≠ [] then [("traceparent", traceparent)] else [])

theorem hexText_ne_nil {id : Nat} (h : ValidId 32 id) : hexText 32 id ≠ [] := by
  intro hnil
  have hlength : (hexText 32 id).length = 32 := length_hexText (by decide) h.2
  rw [hnil] at hlength
  cases hlength

/-- What is used of OpenTelemetry's propagator: the context that it reads from a
`traceparent`, `[]` where the header is missing. -/
structure Propagator where
  extract : Text → Option SpanContext
  extract_text : ∀ {ctx : SpanContext}, ctx.isValid = true →
    extract (traceparentText ctx) = some ctx
  extract_missing : extract [] = none

/-- What a service has of the request that reaches it; `[]` where a header is missing. -/
structure Inbound where
  correlation : Text
  traceparent : Text

/-- The span in which a request is served, and that in which the next service is asked. -/
inductive Span where
  | entry
  | client

/-- A service, with the ids it would draw. `context` is what its instrumentation makes of the
`traceparent` of a request: a traced service continues the trace that it is sent, or starts
one. -/
structure Service (lib : Propagator) where
  traced : Bool
  config : ServiceConfig
  rootTrace : Nat
  fresh : Text
  context : Text → Span → Option SpanContext
  freshText : fresh ≠ []
  context_untraced : traced = false → ∀ text span, context text span = none
  context_traced : traced = true → ∀ text span, ∃ ctx, context text span = some ctx ∧
    ctx.isValid = true ∧ ctx.traceId = (lib.extract text).elim rootTrace SpanContext.traceId

def header (name : String) (headers : List (String × Text)) : Text :=
  (headers.lookup name).getD []

theorem header_correlation (cfg : ServiceConfig) (active : Option SpanContext)
    (correlationId fresh : Text) :
    header "X-Correlation-Id" (outboundHeaders cfg active correlationId fresh) =
      buildCorrelationId active correlationId fresh := rfl

theorem header_traceparent (cfg : ServiceConfig) (active : Option SpanContext)
    (correlationId fresh : Text) :
    header "traceparent" (outboundHeaders cfg active correlationId fresh) =
      (currentTraceContext active).traceparent := by
  by_cases hatp : cfg.atpConnectionName = [] <;>
    by_cases hparent : (currentTraceContext active).traceparent = [] <;>
    simp [header, outboundHeaders, List.lookup_cons, hatp, hparent]

/-- A valid context gives its trace as the correlation id, whatever the caller sent. -/
theorem buildCorrelationId_valid {ctx : SpanContext} (h : ctx.isValid = true) (seed fresh : Text) :
    buildCorrelationId (some ctx) seed fresh = hexText 32 ctx.traceId := by
  have htrace := (of_decide_eq_true h).1
  simp only [buildCorrelationId, currentTraceContext, if_pos h, if_pos (hexText_ne_nil htrace)]

section Chain
variable {lib : Propagator}

/-- The correlation id that the request is given by the tracing middleware. -/
def Service.correlation (s : Service lib) (inbound : Inbound) : Text :=
  buildCorrelationId (s.context inbound.traceparent .entry) inbound.correlation s.fresh

/-- What the next service is asked with. -/
def Service.outbound (s : Service lib) (inbound : Inbound) : Inbound :=
  let headers := outboundHeaders s.config (s.context inbound.traceparent .client)
    (s.correlation inbound) s.fresh
  ⟨header "X-Correlation-Id" headers, header "traceparent" headers⟩

/-- The correlation ids of a request that is passed on along the services. -/
def correlations : List (Service lib) → Inbound → List Text
  | [], _ => []
  | s :: rest, inbound => s.correlation inbound :: correlations rest (s.outbound inbound)

/-- The trace that a traced service is in. -/
def Service.trace (s : Service lib) (inbound : Inbound) : Nat :=
  (lib.extract inbound.traceparent).elim s.rootTrace SpanContext.traceId

theorem Service.correlation_traced {s : Service lib} (hs : s.traced = true) (inbound : Inbound) :
    s.correlation inbound = hexText 32 (s.trace inbound) := by
  obtain ⟨ctx, hctx, hvalid, htrace⟩ := s.context_traced hs inbound.traceparent .entry
  rw [Service.correlation, hctx, buildCorrelationId_valid hvalid, htrace]
  rfl

theorem Service.correlation_untraced {s : Service lib} (hs : s.traced = false)
    {inbound : Inbound} (h : inbound.correlation ≠ []) :
    s.correlation inbound = inbound.correlation := by
  rw [Service.correlation, s.context_untraced hs]
  simp [buildCorrelationId, currentTraceContext, noContext, h]

theorem Service.correlation_ne_nil (s : Service lib) (inbound : Inbound) :
    s.correlation inbound ≠ [] := by
  simp only [Service.correlation, buildCorrelationId]
  split
  · assumption
  · split
    · assumption
    · exact s.freshText

/-- What the next service gets: the correlation id, and of a traced service its trace. -/
structure Carried (s : Service lib) (id : Text) (inbound : Inbound) : Prop where
  correlation : inbound.correlation = id
  traced : s.traced = true → ∃ ctx, lib.extract inbound.traceparent = some ctx ∧
    hexText 32 ctx.traceId = id
  untraced : s.traced = false → lib.extract inbound.traceparent = none

theorem Service.outbound_carried (s : Service lib) (inbound : Inbound) :
    Carried s (s.correlation inbound) (s.outbound inbound) := by
  cases hs : s.traced with
  | true =>
    obtain ⟨ctx, hctx, hvalid, htrace⟩ := s.context_traced hs inbound.traceparent .client
    have hid : s.correlation inbound = hexText 32 ctx.traceId := by
      rw [s.correlation_traced hs, htrace]
      rfl
    refine ⟨?_, fun _ => ⟨ctx, ?_, hid.symm⟩, fun h => absurd h (by rw [hs]; decide)⟩
    · rw [Service.outbound, header_correlation, hctx, buildCorrelationId_valid hvalid, hid]
    · rw [Service.outbound, header_traceparent, hctx, currentTraceContext, if_pos hvalid]
      exact lib.extract_text hvalid
  | false =>
    have hnone := s.context_untraced hs inbound.traceparent .client
    refine ⟨?_, fun h => absurd h (by rw [hs]; decide), fun _ => ?_⟩
    · rw [Service.outbound, header_correlation, hnone]
      simp [buildCorrelationId, currentTraceContext, noContext, s.correlation_ne_nil]
    · rw [Service.outbound, header_traceparent, hnone]
      exact lib.extract_missing

/-- Nobody starts a trace after a service without one. -/
def Continues (a b : Service lib) : Prop := b.traced = true → a.traced = true

theorem correlations_kept_iff {id : Text} (hid : id ≠ []) {previous : Service lib}
    {rest : List (Service lib)} {inbound : Inbound} (hcarried : Carried previous id inbound)
    (hfresh : ∀ s ∈ rest, hexText 32 s.rootTrace ≠ id) :
    (∀ c ∈ correlations rest inbound, c = id) ↔ (previous :: rest).IsChain Continues := by
  induction rest generalizing previous inbound with
  | nil => simp [correlations]
  | cons s rest ih =>
    obtain ⟨hroot, hrest⟩ := List.forall_mem_cons.mp hfresh
    rw [List.isChain_cons_cons, correlations, List.forall_mem_cons]
    have hnext : s.correlation inbound = id →
        ((∀ c ∈ correlations rest (s.outbound inbound), c = id) ↔ (s :: rest).IsChain Continues) :=
      fun hsame => ih (hsame ▸ s.outbound_carried inbound) hrest
    cases hs : s.traced with
    | false =>
      have hsame : s.correlation inbound = id := by
        rw [s.correlation_untraced hs (by rw [hcarried.correlation]; exact hid)]
        exact hcarried.correlation
      have hcontinues : Continues previous s := fun h => absurd h (by rw [hs]; decide)
      simp only [hsame, hcontinues, true_and, hnext hsame]
    | true =>
      cases hprevious : previous.traced with
      | true =>
        obtain ⟨ctx, hread, htrace⟩ := hcarried.traced hprevious
        have hsame : s.correlation inbound = id := by
          rw [s.correlation_traced hs, Service.trace, hread]
          exact htrace
        have hcontinues : Continues previous s := fun _ => hprevious
        simp only [hsame, hcontinues, true_and, hnext hsame]
      | false =>
        have hother : s.correlation inbound ≠ id := by
          rw [s.correlation_traced hs, Service.trace, hcarried.untraced hprevious]
          exact hroot
        have hbreaks : ¬ Continues previous s := by
          intro h
          have htraced := h hs
          rw [hprevious] at htraced
          cases htraced
        simp only [hother, hbreaks, false_and]

/-- Along a chain of services that pass a request on, every one has the correlation id of the
first exactly if none is traced that comes directly after one that is not. -/
theorem chain_keeps_correlation_iff (first : Service lib) (rest : List (Service lib))
    (inbound : Inbound)
    (hfresh : ∀ s ∈ rest, hexText 32 s.rootTrace ≠ first.correlation inbound) :
    (∀ c ∈ correlations (first :: rest) inbound, c = first.correlation inbound) ↔
      (first :: rest).IsChain Continues := by
  rw [correlations, List.forall_mem_cons]
  have hrest := correlations_kept_iff (first.correlation_ne_nil inbound)
    (first.outbound_carried inbound) hfresh
  exact ⟨fun h => hrest.mp h.2, fun h => ⟨rfl, hrest.mpr h⟩⟩

end Chain

/-- A `traceparent` of version 00. -/
def readTraceparent (text : Text) : Option SpanContext :=
  if text.length = 55 ∧ text.take 3 = ['0', '0', '-'] ∧ (text.drop 35).take 1 = ['-'] ∧
      (text.drop 52).take 1 = ['-'] then
    match readHex ((text.drop 3).take 32), readHex ((text.drop 36).take 16),
        readHex (text.drop 53) with
    | some traceId, some spanId, some flags =>
      if h : flags < 256 then
        if ValidId 32 traceId ∧ ValidId 16 spanId then some ⟨traceId, spanId, flags, h⟩ else none
      else none
    | _, _, _ => none
  else none

/-- What is sent is read back. -/
theorem readTraceparent_text {ctx : SpanContext} (h : ctx.isValid = true) :
    readTraceparent (traceparentText ctx) = some ctx := by
  obtain ⟨htrace, hspan⟩ := of_decide_eq_true h
  have ht : (hexText 32 ctx.traceId).length = 32 := length_hexText (by decide) htrace.2
  have hs : (hexText 16 ctx.spanId).length = 16 := length_hexText (by decide) hspan.2
  have hf : (hexText 2 ctx.traceFlags).length = 2 := length_hexText (by decide) ctx.flagsByte
  have hlength : (traceparentText ctx).length = 55 := by
    simp [traceparentText, ht, hs, hf]
  have hfirst : (traceparentText ctx).take 3 = ['0', '0', '-'] := rfl
  have hrest : (traceparentText ctx).drop 3 = hexText 32 ctx.traceId ++ '-' ::
      (hexText 16 ctx.spanId ++ '-' :: hexText 2 ctx.traceFlags) := rfl
  have hdash : (traceparentText ctx).drop 35 =
      '-' :: (hexText 16 ctx.spanId ++ '-' :: hexText 2 ctx.traceFlags) := by
    rw [← List.drop_drop (i := 32) (j := 3), hrest, List.drop_left' ht]
  have hdash' : (traceparentText ctx).drop 52 = '-' :: hexText 2 ctx.traceFlags := by
    rw [← List.drop_drop (i := 17) (j := 35), hdash, List.drop_succ_cons, List.drop_left' hs]
  have hspanText : (traceparentText ctx).drop 36 =
      hexText 16 ctx.spanId ++ '-' :: hexText 2 ctx.traceFlags := by
    rw [← List.drop_drop (i := 1) (j := 35), hdash]
    rfl
  have hflags : (traceparentText ctx).drop 53 = hexText 2 ctx.traceFlags := by
    rw [← List.drop_drop (i := 1) (j := 52), hdash']
    rfl
  rw [readTraceparent, if_pos ⟨hlength, hfirst, by rw [hdash]; rfl, by rw [hdash']; rfl⟩, hrest,
    hspanText, hflags, List.take_left' ht, List.take_left' hs, readHex_hexText, readHex_hexText,
    readHex_hexText]
  dsimp only
  rw [dif_pos ctx.flagsByte, if_pos ⟨htrace, hspan⟩]

/-- The propagator of the W3C format. -/
def traceContextPropagator : Propagator where
  extract := readTraceparent
  extract_text := readTraceparent_text
  extract_missing := rfl

theorem readTraceparent_valid {text : Text} {ctx : SpanContext}
    (h : readTraceparent text = some ctx) : ValidId 32 ctx.traceId := by
  simp only [readTraceparent] at h
  split at h
  · split at h
    · split at h
      · split at h
        · next hvalid =>
          obtain rfl := Option.some.inj h
          exact hvalid.1
        · cases h
      · cases h
    · cases h
  · cases h

theorem smallId {width id : Nat} (hpos : 0 < id) (hid : id < 16) (hwidth : 0 < width) :
    ValidId width id :=
  ⟨hpos, Nat.lt_of_lt_of_le hid (Nat.le_self_pow (Nat.ne_of_gt hwidth) 16)⟩

def spanNumber : Span → Nat
  | .entry => 1
  | .client => 2

def sampleContext (root : Fin 15) (text : Text) (span : Span) : SpanContext :=
  ⟨(readTraceparent text).elim (root + 1) SpanContext.traceId, spanNumber span, 1, by decide⟩

theorem sampleContext_valid (root : Fin 15) (text : Text) (span : Span) :
    (sampleContext root text span).isValid = true := by
  have hspan : ValidId 16 (spanNumber span) := by
    cases span <;> exact smallId (by decide) (by decide) (by decide)
  refine decide_eq_true ⟨?_, hspan⟩
  show ValidId 32 ((readTraceparent text).elim (root + 1) SpanContext.traceId)
  cases hread : readTraceparent text with
  | none =>
    have hroot : (root : Nat) + 1 < 16 := by omega
    exact smallId (Nat.succ_pos _) hroot (by decide)
  | some parent => exact readTraceparent_valid hread

def sampleService (traced : Bool) (root : Fin 15) : Service traceContextPropagator where
  traced := traced
  config := ⟨"enterprise-crm-portal".toList, "octo".toList, "1.1.0".toList,
    "platform-stack".toList, []⟩
  rootTrace := root + 1
  fresh := ['a']
  context text span := if traced then some (sampleContext root text span) else none
  freshText := List.cons_ne_nil _ _
  context_untraced h _ _ := if_neg (by rw [h]; decide)
  context_traced h text span :=
    ⟨sampleContext root text span, if_pos h, sampleContext_valid root text span, rfl⟩

theorem chain_keeps_correlation_iff_sample :
    ¬ ∀ c ∈ correlations
        [sampleService true 0, sampleService false 1, sampleService true 2] ⟨[], []⟩,
      c = (sampleService true 0).correlation ⟨[], []⟩ := by
  have hfirst : (sampleService true 0).correlation ⟨[], []⟩ = hexText 32 1 :=
    Service.correlation_traced rfl _
  have hfresh : ∀ s ∈ [sampleService false 1, sampleService true 2],
      hexText 32 s.rootTrace ≠ (sampleService true 0).correlation ⟨[], []⟩ := by
    intro s hs hsame
    have hroot : s.rootTrace = 1 := hexText_injective (hsame.trans hfirst)
    rcases List.mem_cons.mp hs with rfl | hlast
    · exact absurd hroot (by decide)
    · rw [List.mem_singleton.mp hlast] at hroot
      exact absurd hroot (by decide)
  rw [chain_keeps_correlation_iff _ _ _ hfresh, List.isChain_cons_cons, List.isChain_cons_cons]
  rintro ⟨-, hbreaks, -⟩
  exact absurd (hbreaks rfl) (by decide)

end TraceContext
