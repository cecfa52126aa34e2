import AssetBundle.Proofs.Http.Upgrade
import AssetBundle.Service.Requests
import Mathlib.Data.List.DropRight
import Mathlib.Data.List.Induction

/-!
# AssetBundle.Proofs.Service.Root

What answers the root, over whole runs of a process. Every operation does one of five things to the
registry and logs nothing else but what is for debugging (`apply_eq`), so a run acts on the registry
as the effects of its operations do (`registry_after`). From this follow, for the operations since
the last reset,

* which table is active: the last one that was set (`active_run`),
* what answers the root: nothing is settled at first (`rootAlias_run_open`), the first operation
  that settles it does so on the table of that moment (`rootAlias_run_first`), and then only a
  path that is set by hand takes its place (`rootAlias_run_settled`),
* that the decision is logged once at most (`log_after`).

`root_after` puts them together.
-/

namespace AssetBundle

/-- Whether a buffer is a request that reads and asks for the root. -/
def Request.AsksRootIn (buffer : Bytes) : Prop :=
  ∃ request, Asks buffer request ∧ request.IsReading ∧ request.AsksRoot

instance (request : Request) : Decidable request.IsReading := inferInstanceAs (Decidable (_ ∨ _))

instance (buffer : Bytes) : Decidable (Request.AsksRootIn buffer) :=
  match hparse : Request.parse buffer with
  | .ok request =>
    decidable_of_iff (request.IsReading ∧ request.AsksRoot)
      ⟨fun h => ⟨request, Request.parse_eq_ok_iff.1 hparse, h⟩, fun ⟨other, hasks, h⟩ => by
        cases hparse.symm.trans (Request.parse_eq_ok_iff.2 hasks)
        exact h⟩
  | .error _ =>
    .isFalse fun ⟨_, hasks, _⟩ => by cases hparse.symm.trans (Request.parse_eq_ok_iff.2 hasks)

def LogLine.IsDebug (line : LogLine) : Prop := line.severity = .debug

theorem Reply.toBuffer_root (buffer : Bytes) (t : Table) (a : RootAlias) :
    ∃ line : LogLine, line.IsDebug ∧
      (Request.AsksRootIn buffer → (toBuffer buffer t a).rootAlias = (a.resolve t).2.1 ∧
        (toBuffer buffer t a).log = (a.resolve t).2.2 ++ [line]) ∧
      (¬ Request.AsksRootIn buffer → (toBuffer buffer t a).rootAlias = a ∧
        (toBuffer buffer t a).log = [line]) := by
  obtain ⟨reply, line, hdecides, hline, hreply⟩ := toBuffer_decides buffer t a
  refine ⟨line, hline, ?_, ?_⟩
  · rintro ⟨request, hasks, hreading, hroot⟩
    obtain ⟨halias, hlog⟩ := (hdecides.answers request hasks).atRoot hreading hroot
    rw [hreply, halias, hlog]
    exact ⟨rfl, rfl⟩
  · intro hnot
    have hidle : reply.rootAlias = a ∧ reply.log = [] := by
      by_cases hmalformed : Request.IsMalformed buffer
      · rw [hdecides.page hmalformed]
        exact ⟨rfl, rfl⟩
      · obtain ⟨request, hasks⟩ := hdecides.asks hmalformed
        exact (hdecides.answers request hasks).elsewhere fun h => hnot ⟨request, hasks, h⟩
    rw [hreply, hidle.1, hidle.2]
    exact ⟨rfl, rfl⟩

theorem RootAlias.resolve_initial (t : Table) :
    (initial.resolve t).1 = (pick? t).getD indexPage := by
  unfold resolve
  cases pick? t <;> rfl

/-- No table is set, and what answers the root is open. -/
structure Registry.IsFresh (r : Registry) : Prop where
  chosen : r.chosen = none
  rootAlias : r.rootAlias = .initial

namespace Exchange

variable {α : Type}

variable {buffer : Bytes} {upgrade : Option (Text × Handshake α)}

/-- Whether a buffer is answered here, and neither turned over to a handshake nor refused because
the name of its header has no form in bytes. -/
def isKept (buffer : Bytes) (upgrade : Option (Text × Handshake α)) : Bool :=
  match upgrade with
  | none => true
  | some (name, _) =>
    match mentions name buffer with
    | .ok mentioned => !mentioned
    | .error _ => false

theorem handle_of_kept (h : isKept buffer upgrade = true) (t : Table) (a : RootAlias) (s : Socket) :
    handle buffer t a upgrade s = handle buffer t a (none : Option (Text × Handshake α)) s := by
  obtain _ | ⟨name, act⟩ := upgrade
  · rfl
  rw [handle_some, route]
  rw [isKept] at h
  cases Sequence.contains Request.headEnd buffer with
  | false => rfl
  | true => rcases hmentions : mentions name buffer with e | _ | _ <;> simp_all

theorem handle_of_not_kept (h : isKept buffer upgrade = false) (t : Table) (a : RootAlias)
    (s : Socket) :
    (handle buffer t a upgrade s).rootAlias = a ∧ (handle buffer t a upgrade s).log = [] := by
  obtain _ | ⟨name, act⟩ := upgrade
  · cases h
  rw [handle_some, route]
  rw [isKept] at h
  cases hend : Sequence.contains Request.headEnd buffer with
  | false =>
    rw [Bool.not_false, if_pos rfl]
    dsimp only
    rw [handle_none, hend]
    exact ⟨rfl, rfl⟩
  | true => rcases hmentions : mentions name buffer with e | _ | _ <;> simp_all [takeOver]

theorem serve_state (buffer : Bytes) (t : Table) (a : RootAlias) (s : Socket) :
    (serve buffer t a s).rootAlias = (Reply.toBuffer buffer t a).rootAlias ∧
      (serve buffer t a s).log = (Reply.toBuffer buffer t a).log := by
  rw [serve_eq]
  exact ⟨rfl, rfl⟩

/-- Handling a buffer decides the root if it is kept and asks for the root. -/
theorem handle_root (buffer : Bytes) (t : Table) (a : RootAlias)
    (upgrade : Option (Text × Handshake α)) (s : Socket) :
    let decides := isKept buffer upgrade = true ∧ Request.AsksRootIn buffer
    ∃ lines : Log, (∀ line ∈ lines, line.IsDebug) ∧
      (decides → (handle buffer t a upgrade s).rootAlias = (a.resolve t).2.1 ∧
        (handle buffer t a upgrade s).log = (a.resolve t).2.2 ++ lines) ∧
      (¬ decides → (handle buffer t a upgrade s).rootAlias = a ∧
        (handle buffer t a upgrade s).log = lines) := by
  dsimp only
  cases hkept : isKept buffer upgrade with
  | false =>
    obtain ⟨halias, hlog⟩ := handle_of_not_kept hkept t a s
    exact ⟨[], by simp, by simp, fun _ => ⟨halias, hlog⟩⟩
  | true =>
    rw [handle_of_kept hkept, handle_none]
    cases hend : Sequence.contains Request.headEnd buffer with
    | false =>
      have hnone : ¬ Request.AsksRootIn buffer := by
        rintro ⟨request, hasks, _⟩
        exact Request.isMalformed_iff.1 (.inl (Sequence.contains_eq_false_iff.1 hend))
          ⟨request, hasks⟩
      exact ⟨[], by simp, fun h => absurd h.2 hnone, fun _ => ⟨rfl, rfl⟩⟩
    | true =>
      obtain ⟨halias, hlog⟩ := serve_state buffer t a s
      obtain ⟨line, hline, hroot, helse⟩ := Reply.toBuffer_root buffer t a
      refine ⟨[line], by simpa using hline, fun h => ?_, fun h => ?_⟩
      · rw [← halias, ← hlog] at hroot
        exact hroot h.2
      · rw [← halias, ← hlog] at helse
        exact helse fun hasks => h ⟨rfl, hasks⟩

end Exchange

namespace Service

variable {α : Type}

/-- Something done in a process to the active table or to what answers the root. -/
inductive Operation (α : Type) where
  | setTable (t : Table)
  /-- Sets a value that is no table. -/
  | setValue (v : Value)
  | reset
  /-- Asks what answers the root. -/
  | rootAlias
  | setRootAlias (url : Value)
  | handle (buffer : Bytes) (upgrade : Option (Text × Handshake α)) (socket : Socket)
  | serve (buffer : Bytes) (socket : Socket)

/-- What an operation does to the registry. -/
inductive Effect where
  | forget
  | choose (t : Table)
  /-- A path is set by hand. -/
  | settle (url : Text)
  /-- What answers the root is decided on the active table, unless it is settled. -/
  | decide
  | nothing

namespace Effect

def act (r : Registry) : Effect → Registry × Log
  | .forget => (r.reset, [])
  | .choose t => (r.set t, [])
  | .settle url => ({ r with rootAlias := ⟨url, true⟩ }, [])
  | .decide => r.resolveRoot.2
  | .nothing => (r, [])

def isForget : Effect → Bool
  | .forget => true
  | _ => false

/-- Whether what answers the root is settled afterwards. -/
def settles : Effect → Bool
  | .settle _ | .decide => true
  | _ => false

def table? : Effect → Option Table
  | .choose t => some t
  | _ => none

def url? : Effect → Option Text
  | .settle url => some url
  | _ => none

end Effect

namespace Operation

def apply (s : Service) : Operation α → Service
  | .setTable t => s.setTable t
  | .setValue v => (s.setTableValue v).2
  | .reset => s.reset
  | .rootAlias => s.rootAlias.2
  | .setRootAlias url => (s.setRootAlias url).2
  | .handle buffer upgrade socket => (s.handle buffer upgrade socket).2.2
  | .serve buffer socket => (s.serve buffer none none socket).2.2.2

/-- Requests count if they are answered here, read, and ask for the root. -/
def effect : Operation α → Effect
  | .setTable t => .choose t
  | .setValue _ => .nothing
  | .reset => .forget
  | .rootAlias => .decide
  | .setRootAlias url => if url.isWritable then .settle url.written else .nothing
  | .handle buffer upgrade _ =>
    if Exchange.isKept buffer upgrade = true ∧ Request.AsksRootIn buffer then .decide else .nothing
  | .serve buffer _ => if Request.AsksRootIn buffer then .decide else .nothing

end Operation

@[simp] theorem report_nil (s : Service) : s.report [] = s := by
  simp [report, Log.visible]

/-- An operation acts on the registry as its effect does, and logs what the effect logs and lines
for debugging. -/
theorem apply_eq (s : Service) (op : Operation α) :
    ∃ lines : Log, (∀ line ∈ lines, line.IsDebug) ∧
      op.apply s = { s with registry := (op.effect.act s.registry).1 }.report
        ((op.effect.act s.registry).2 ++ lines) := by
  cases op with
  | setTable t => exact ⟨[], by simp, (report_nil _).symm⟩
  | setValue v => exact ⟨[], by simp, (report_nil _).symm⟩
  | reset => exact ⟨[], by simp, (report_nil _).symm⟩
  | rootAlias => exact ⟨[], by simp, by rw [List.append_nil]; rfl⟩
  | setRootAlias url =>
    refine ⟨[], by simp, ?_⟩
    rw [Operation.apply, Operation.effect, setRootAlias, RootAlias.setValue]
    by_cases hurl : url.isWritable = true
    · rw [if_pos hurl, if_pos hurl]
      exact (report_nil _).symm
    · rw [if_neg hurl, if_neg hurl]
      exact (report_nil _).symm
  | handle buffer upgrade socket =>
    obtain ⟨lines, hlines, hdecide, hidle⟩ := Exchange.handle_root buffer s.registry.active
      s.registry.rootAlias upgrade socket
    refine ⟨lines, hlines, ?_⟩
    rw [Operation.apply, Operation.effect, handle]
    by_cases h : Exchange.isKept buffer upgrade = true ∧ Request.AsksRootIn buffer
    · obtain ⟨halias, hlog⟩ := hdecide h
      rw [if_pos h]
      dsimp only
      rw [halias, hlog]
      rfl
    · obtain ⟨halias, hlog⟩ := hidle h
      rw [if_neg h]
      dsimp only
      rw [halias, hlog]
      rfl
  | serve buffer socket =>
    obtain ⟨line, hline, hdecide, hidle⟩ :=
      Reply.toBuffer_root buffer s.registry.active s.registry.rootAlias
    obtain ⟨halias, hlog⟩ :=
      Exchange.serve_state buffer s.registry.active s.registry.rootAlias socket
    rw [← halias, ← hlog] at hdecide hidle
    refine ⟨[line], by simpa using hline, ?_⟩
    rw [Operation.apply, Operation.effect, serve]
    by_cases h : Request.AsksRootIn buffer
    · obtain ⟨halias, hlog⟩ := hdecide h
      rw [if_pos h]
      dsimp only [tableFor, aliasFor, Option.getD_none]
      rw [halias, hlog]
      rfl
    · obtain ⟨halias, hlog⟩ := hidle h
      rw [if_neg h]
      dsimp only [tableFor, aliasFor, Option.getD_none]
      rw [halias, hlog]
      rfl

def after (s : Service) (ops : List (Operation α)) : Service := ops.foldl Operation.apply s

theorem after_append (s : Service) (ops more : List (Operation α)) :
    s.after (ops ++ more) = (s.after ops).after more := List.foldl_append

namespace Effect

/-- A registry after effects, in their order. -/
def run (r : Registry) (es : List Effect) : Registry := es.foldl (fun r e => (e.act r).1) r

variable {r : Registry} {e : Effect} {es : List Effect}

theorem run_concat (r : Registry) (es : List Effect) (e : Effect) :
    run r (es ++ [e]) = (e.act (run r es)).1 := by
  simp [run]

/-- The table that was set last, if any was. -/
def lastTable? (es : List Effect) : Option Table := (es.filterMap table?).getLast?

/-- The path that was set last by hand, if any was. -/
def lastUrl? (es : List Effect) : Option Text := (es.filterMap url?).getLast?

theorem isForget_iff : e.isForget = true ↔ e = .forget := by
  cases e <;> simp [isForget]

theorem placeholder_act (r : Registry) (e : Effect) : (e.act r).1.placeholder = r.placeholder := by
  cases e <;> rfl

theorem chosen_act (h : e.isForget = false) : (e.act r).1.chosen = e.table?.or r.chosen := by
  cases e with
  | forget => cases h
  | _ => rfl

theorem rootAlias_act (h : e.isForget = false) (hsettles : e.settles = false) :
    (e.act r).1.rootAlias = r.rootAlias := by
  cases e with
  | choose t => rfl
  | nothing => rfl
  | _ => simp_all [isForget, settles]

/-- What is settled by an effect: a path that is set by hand, and else what is decided now or was
settled before. -/
theorem rootAlias_act_settles (h : e.settles = true) :
    (e.act r).1.rootAlias = ⟨e.url?.getD (r.rootAlias.resolve r.active).1, true⟩ := by
  cases e with
  | settle url => rfl
  | decide =>
    change (r.rootAlias.resolve r.active).2.1 = ⟨(r.rootAlias.resolve r.active).1, true⟩
    rw [RootAlias.resolve]
    split
    · next hresolved => rw [← hresolved]
    · split <;> rfl
  | _ => cases h

theorem placeholder_run (r : Registry) (es : List Effect) :
    (run r es).placeholder = r.placeholder := by
  induction es using List.reverseRecOn with
  | nil => rfl
  | append_singleton es e ih => rw [run_concat, placeholder_act, ih]

theorem chosen_run (h : ∀ e ∈ es, e.isForget = false) :
    (run r es).chosen = (lastTable? es).or r.chosen := by
  induction es using List.reverseRecOn with
  | nil => rfl
  | append_singleton es e ih =>
    rw [List.forall_mem_append, List.forall_mem_singleton] at h
    rw [run_concat, chosen_act h.2, ih h.1, ← Option.or_assoc]
    congr 1
    rw [lastTable?, lastTable?, List.filterMap_append, List.getLast?_append]
    cases e <;> rfl

/-- The active table is the last one that was set, or else the placeholder. -/
theorem active_run (hfresh : r.IsFresh) (h : ∀ e ∈ es, e.isForget = false) :
    (run r es).active = (lastTable? es).getD r.placeholder := by
  rw [Registry.active, chosen_run h, placeholder_run, hfresh.chosen, Option.or_none]

theorem rootAlias_run_open (h : ∀ e ∈ es, e.isForget = false ∧ e.settles = false) :
    (run r es).rootAlias = r.rootAlias := by
  induction es using List.reverseRecOn with
  | nil => rfl
  | append_singleton es e ih =>
    rw [List.forall_mem_append, List.forall_mem_singleton] at h
    rw [run_concat, rootAlias_act h.2.1 h.2.2, ih h.1]

/-- Once the root is settled, only a path that is set by hand takes its place. -/
theorem rootAlias_run_settled (hresolved : r.rootAlias.resolved = true)
    (h : ∀ e ∈ es, e.isForget = false) :
    (run r es).rootAlias = ⟨(lastUrl? es).getD r.rootAlias.value, true⟩ := by
  induction es using List.reverseRecOn with
  | nil => rw [← hresolved]; rfl
  | append_singleton es e ih =>
    rw [List.forall_mem_append, List.forall_mem_singleton] at h
    have hlast : lastUrl? (es ++ [e]) = e.url?.or (lastUrl? es) := by
      rw [lastUrl?, lastUrl?, List.filterMap_append, List.getLast?_append]
      cases e <;> rfl
    rw [run_concat, hlast]
    cases hsettles : e.settles with
    | false =>
      have hurl : e.url? = none := by
        cases e with
        | settle url => cases hsettles
        | _ => rfl
      rw [rootAlias_act h.2 hsettles, ih h.1, hurl]
      rfl
    | true =>
      rw [rootAlias_act_settles hsettles, ih h.1]
      cases e.url? <;> rfl

/-- What is settled by the first effect that settles anything, on the table of that moment. -/
theorem rootAlias_run_first {before behind : List Effect}
    (h : ∀ e' ∈ before ++ e :: behind, e'.isForget = false)
    (hbefore : ∀ e' ∈ before, e'.settles = false) (hsettles : e.settles = true) :
    (run r (before ++ e :: behind)).rootAlias =
      ⟨(lastUrl? (e :: behind)).getD (r.rootAlias.resolve (run r before).active).1, true⟩ := by
  simp only [List.forall_mem_append, List.forall_mem_cons] at h
  obtain ⟨hfirst, _, hbehind⟩ := h
  have hopen : (run r before).rootAlias = r.rootAlias :=
    rootAlias_run_open fun e' he => ⟨hfirst e' he, hbefore e' he⟩
  have hsettled := rootAlias_act_settles (r := run r before) hsettles
  have hlast : lastUrl? (e :: behind) = (lastUrl? behind).or e.url? := by
    rw [lastUrl?, lastUrl?, List.filterMap_cons]
    cases e.url? with
    | none => simp
    | some url => simp [List.getLast?_cons]
  rw [run, List.foldl_append, List.foldl_cons, ← run, ← run,
    rootAlias_run_settled (by rw [hsettled]) hbehind, hsettled, hopen, hlast]
  cases lastUrl? behind <;> rfl

end Effect

theorem registry_after (s : Service) (ops : List (Operation α)) :
    (s.after ops).registry = Effect.run s.registry (ops.map Operation.effect) := by
  induction ops using List.reverseRecOn with
  | nil => rfl
  | append_singleton ops op ih =>
    obtain ⟨lines, _, happly⟩ := apply_eq (s.after ops) op
    rw [List.map_append, List.map_singleton, Effect.run_concat, ← ih, after_append]
    exact congrArg registry happly

def isRootLine (line : LogLine) : Bool :=
  line.severity = .info && ("Will use [" : Text).isPrefixOf line.message

theorem countP_debug {lines : Log} (h : ∀ line ∈ lines, line.IsDebug) :
    lines.countP isRootLine = 0 := by
  rw [List.countP_eq_zero]
  intro line hline
  have hdebug : line.severity = .debug := h line hline
  simp [isRootLine, hdebug]

/-- Whoever logs what answers the root settles what was open. -/
theorem countP_act {e : Effect} (h : e.isForget = false) (r : Registry) :
    (e.act r).2.countP isRootLine + r.rootAlias.resolved.toNat ≤
      (e.act r).1.rootAlias.resolved.toNat := by
  cases e with
  | forget => cases h
  | choose t => exact (Nat.zero_add _).le
  | nothing => exact (Nat.zero_add _).le
  | settle url => exact (Nat.zero_add _).le.trans (Bool.toNat_le _)
  | decide =>
    change (r.rootAlias.resolve r.active).2.2.countP isRootLine + _ ≤
      (r.rootAlias.resolve r.active).2.1.resolved.toNat
    rw [RootAlias.resolve]
    cases hresolved : r.rootAlias.resolved with
    | true => simp [hresolved]
    | false =>
      cases RootAlias.pick? r.active with
      | none => simp
      | some url => exact List.countP_le_length

theorem log_apply {op : Operation α} (h : op.effect.isForget = false) (s : Service) :
    ∃ new, (op.apply s).log = s.log ++ new ∧
      new.countP isRootLine + s.registry.rootAlias.resolved.toNat ≤
        (op.apply s).registry.rootAlias.resolved.toNat := by
  obtain ⟨lines, hdebug, happly⟩ := apply_eq s op
  rw [happly]
  refine ⟨_, rfl, le_trans (Nat.add_le_add_right ?_ _) (countP_act h s.registry)⟩
  calc List.countP isRootLine (Log.visible _ ((op.effect.act s.registry).2 ++ lines))
      ≤ ((op.effect.act s.registry).2 ++ lines).countP isRootLine :=
        List.filter_sublist.countP_le
    _ = (op.effect.act s.registry).2.countP isRootLine := by
        rw [List.countP_append, countP_debug hdebug, Nat.add_zero]

theorem log_after {ops : List (Operation α)} (h : ∀ op ∈ ops, op.effect.isForget = false)
    (s : Service) :
    ∃ new, (s.after ops).log = s.log ++ new ∧
      new.countP isRootLine + s.registry.rootAlias.resolved.toNat ≤
        (s.after ops).registry.rootAlias.resolved.toNat := by
  induction ops using List.reverseRecOn with
  | nil => exact ⟨[], by simp [after], by simp [after]⟩
  | append_singleton ops op ih =>
    -- A line is paid for by the step from open to settled, and only a reset leads back.
    rw [List.forall_mem_append, List.forall_mem_singleton] at h
    obtain ⟨new, hlog, hcount⟩ := ih h.1
    obtain ⟨more, hlog', hcount'⟩ := log_apply h.2 (s.after ops)
    rw [after_append]
    refine ⟨new ++ more, hlog'.trans (by rw [hlog, List.append_assoc]), ?_⟩
    rw [List.countP_append]
    exact le_trans (by omega) hcount'

/-- The operations behind the last reset. -/
def sinceReset (past : List (Operation α)) : List (Operation α) :=
  past.rtakeWhile fun op => !op.effect.isForget

theorem isForget_of_mem_sinceReset {past : List (Operation α)} {op : Operation α}
    (h : op ∈ sinceReset past) : op.effect.isForget = false := by
  simpa using List.mem_rtakeWhile_imp h

theorem exists_fresh {s : Service} (hfresh : s.registry.IsFresh) (past : List (Operation α)) :
    ∃ front, past = front ++ sinceReset past ∧ (s.after front).registry.IsFresh ∧
      (s.after front).registry.placeholder = s.registry.placeholder := by
  refine ⟨past.rdropWhile fun op => !op.effect.isForget,
    (List.rdropWhile_append_rtakeWhile ..).symm, ?_, ?_⟩
  · by_cases hnone : past.rdropWhile (fun op => !op.effect.isForget) = []
    · rw [hnone]
      exact hfresh
    · -- What is left in front of the last operations ends with a reset.
      have hlast := List.rdropWhile_last_not _ _ hnone
      rw [← List.dropLast_append_getLast hnone, registry_after, List.map_append, List.map_singleton,
        Effect.run_concat]
      rw [Bool.not_eq_true', Bool.not_eq_false, Effect.isForget_iff] at hlast
      rw [hlast]
      exact ⟨rfl, rfl⟩
  · rw [registry_after, Effect.placeholder_run]

/-- What answers the root after any run from a fresh start: the active table is the last one that
was set since the last reset, or else the placeholder; the root is open until it is settled, on
the table of that moment, and then only changed by hand; and it is logged at most once what
answers it. -/
theorem root_after {s : Service} (hfresh : s.registry.IsFresh) (past : List (Operation α)) :
    let now := s.after past
    let since := (sinceReset past).map Operation.effect
    now.registry.active = (Effect.lastTable? since).getD s.registry.placeholder ∧
      ((∀ e ∈ since, e.settles = false) → now.registry.rootAlias = .initial) ∧
      (∀ before e behind, since = before ++ e :: behind → (∀ e ∈ before, e.settles = false) →
        e.settles = true →
        now.registry.rootAlias = ⟨(Effect.lastUrl? (e :: behind)).getD
          ((RootAlias.pick? ((Effect.lastTable? before).getD s.registry.placeholder)).getD
            RootAlias.indexPage), true⟩) ∧
      ∃ front new, past = front ++ sinceReset past ∧ now.log = (s.after front).log ++ new ∧
        new.countP isRootLine ≤ 1 := by
  obtain ⟨front, hpast, hfront, hplaceholder⟩ := exists_fresh hfresh past
  have hreset : ∀ e ∈ (sinceReset past).map Operation.effect, e.isForget = false :=
    List.forall_mem_map.2 fun _ => isForget_of_mem_sinceReset
  have hnow : s.after past = (s.after front).after (sinceReset past) :=
    (congrArg s.after hpast).trans (after_append ..)
  have hregistry := registry_after (s.after front) (sinceReset past)
  rw [← hnow] at hregistry
  refine ⟨?_, fun hopen => ?_, fun before e behind hsince hbefore hsettles => ?_, front, ?_⟩
  · rw [hregistry, Effect.active_run hfront hreset, hplaceholder]
  · rw [hregistry, Effect.rootAlias_run_open fun e he => ⟨hreset e he, hopen e he⟩,
      hfront.rootAlias]
  · rw [hsince] at hreset
    have hactive := Effect.active_run hfront fun e he => hreset e (List.mem_append_left _ he)
    rw [hregistry, hsince, Effect.rootAlias_run_first hreset hbefore hsettles, hactive,
      hfront.rootAlias, RootAlias.resolve_initial, hplaceholder]
  · obtain ⟨new, hlog, hcount⟩ :=
      log_after (fun op => isForget_of_mem_sinceReset) (s.after front)
    exact ⟨new, hpast, hnow ▸ hlog, (Nat.le_of_add_right_le hcount).trans (Bool.toNat_le _)⟩

/-- After a reset a buffer that is no request, a request for the root, another table, and the root
once more. -/
theorem root_after_swapped :
    let s := Service.initial "now" .empty
    let root := ("GET / HTTP/1.1\r\n\r\n" : Text).flatMap Utf8.encodePoint
    let past : List (Operation Unit) :=
      [.setTable .empty, .reset, .serve [] (.ofIncoming []), .serve root (.ofIncoming []),
        .setTable .empty, .serve root (.ofIncoming [])]
    (s.after past).registry.active = .empty ∧ (s.after past).registry.rootAlias = ⟨"/", true⟩ := by
  intro s root past
  have hsince : (sinceReset past).map Operation.effect =
      [.nothing] ++ .decide :: [.choose .empty, .decide] := rfl
  obtain ⟨hactive, _, hfirst, _⟩ := root_after (s := s) ⟨rfl, rfl⟩ past
  have hpick : RootAlias.pick? s.registry.placeholder = some ("/" : Text) := by
    rw [RootAlias.pick?, Table.find?_eq, Table.find?_eq]
    rfl
  refine ⟨by rw [hactive, hsince]; rfl, ?_⟩
  rw [hfirst _ _ _ hsince (by simp [Effect.settles]) rfl]
  change (⟨(RootAlias.pick? s.registry.placeholder).getD _, true⟩ : RootAlias) = _
  rw [hpick]
  rfl

end Service
end AssetBundle
