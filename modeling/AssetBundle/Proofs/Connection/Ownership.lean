import AssetBundle.Proofs.Connection.Sending

/-!
# AssetBundle.Proofs.Connection.Ownership

Who closes a connection. A host comes to an end early, or it has a buffer that it handles; up to
there the handshake does not matter (`run_cases`). Then a handshake takes over, or the host answers
by sends of its own, which depend on nothing but the buffer and the sends that fail
(`conclude_none_alike`). If the handshake returned, the connection stays as the handshake left it.
In every other case the host closes it, and does nothing on it afterwards (`run_ownership`). What
goes wrong on the way, in whatever call, ends in the log.
-/

namespace AssetBundle

/-- Whether a call is one that a host makes in front of closing: it sets the timeout, receives or
sends. -/
def Event.isServing : Event → Bool
  | .timeout _ | .received _ | .sent _ => true
  | _ => false

theorem Event.isServing_of_isQuiet {e : Event} (h : e.isQuiet = true) : e.isServing = true := by
  cases e <;> first | rfl | cases h

namespace Host

variable {α : Type} {s s' start heard : Socket} {t : Table} {a : RootAlias}
  {handshake : Option (Handshake α)} {timeout : Value} {buffer : Bytes}

theorem heard_applyTimeout {outcome : Outcome Unit}
    (h : applyTimeout timeout s = (outcome, s')) : s.Heard s' := by
  have hset : ∀ seconds, s.setTimeout seconds = (outcome, s') → s.Heard s' := by
    intro seconds h
    rw [Socket.setTimeout] at h
    split at h <;> cases h
    · exact .refl s
    · exact Socket.heard_record s rfl
  unfold applyTimeout at h
  split at h
  · cases h
    exact .refl s
  · exact hset _ h

theorem heard_receiveHead {limit : Int} {outcome : Outcome Bytes}
    (h : receiveHead s limit = (outcome, s')) : s.Heard s' := by
  obtain ⟨chunks, last, htakes, hreceived⟩ := (h ▸ receives_receiveHead s limit).takes
  rcases hreceived with hreceived | ⟨e, behind, hreceived, hfailed⟩ <;> cases hreceived
  · exact htakes.heard
  · exact htakes.heard.trans (Socket.heard_receive hfailed)

/-- What becomes of a connection once its buffer was handled. -/
def conclude (handled : Handled α) : Finished :=
  match handled.outcome with
  | .ok (some _) => ⟨handled.rootAlias, handled.log, handled.socket⟩
  | .ok none => ⟨handled.rootAlias, handled.log, handled.socket.close⟩
  | .error e => abandon e handled.rootAlias handled.log handled.socket

/-- A host handles what it received, if that is anything. -/
theorem run_received (hstart : applyTimeout timeout s = (.ok (), start))
    (hreceived : receiveHead start headLimit = (.ok buffer, heard)) :
    run t a handshake timeout s =
      if buffer = [] then ⟨a, [], heard.close⟩
      else conclude (Exchange.handle buffer t a
        (handshake.map fun act => (Exchange.upgradeHeader, act)) heard) := by
  rw [run, hstart]
  dsimp only
  rw [hreceived]
  cases buffer <;> rfl

/-- A buffer that is handled without a handshake is answered by sends, and the connection is closed
behind them. What comes of it depends on the sends that fail alone. -/
theorem conclude_none_alike (α : Type) (buffer : Bytes) (t : Table) (a : RootAlias) (s : Socket) :
    ∃ (decided : RootAlias) (log : Log) (tries : Nat) (chunks : List Bytes),
      ∀ s', s.SendsAlike s' →
        (Exchange.handle buffer t a (none : Option (Text × Handshake α)) s').socket =
            s'.afterSends tries chunks ∧
          conclude (Exchange.handle buffer t a (none : Option (Text × Handshake α)) s') =
            ⟨decided, log, (s'.afterSends tries chunks).close⟩ := by
  obtain ⟨outcome, decided, log, tries, chunks, hhandle⟩ :=
    Exchange.handle_none_alike (α := α) buffer t a s
  cases outcome with
  | error e =>
    refine ⟨decided, log ++ failureLog e, tries, chunks, fun s' h => ?_⟩
    rw [hhandle s' h]
    exact ⟨rfl, rfl⟩
  | ok done =>
    refine ⟨decided, log, tries, chunks, fun s' h => ?_⟩
    rw [hhandle s' h]
    exact ⟨rfl, rfl⟩

/-- Whether a host has come as far as a buffer: it has set the timeout, if there is one, and has
received the chunks of the buffer, and has done nothing else. -/
structure HasHeard (timeout : Value) (s : Socket) (buffer : Bytes) (heard : Socket) : Prop where
  received : ∃ start chunks, applyTimeout timeout s = (.ok (), start) ∧
    start.Takes chunks heard ∧ buffer = chunks.flatten
  quiet : s.Heard heard

theorem hasHeard_of_received (hstart : applyTimeout timeout s = (.ok (), start))
    (hreceived : receiveHead start headLimit = (.ok buffer, heard)) :
    HasHeard timeout s buffer heard := by
  obtain ⟨chunks, last, htakes, hlast⟩ :=
    (hreceived ▸ receives_receiveHead start headLimit).takes
  rcases hlast with hlast | ⟨e, left, hlast, _⟩ <;> cases hlast
  exact ⟨⟨start, chunks, hstart, htakes, List.nil_append _⟩,
    (heard_applyTimeout hstart).trans htakes.heard⟩

/-- Whether a host served a connection to its end: it set the timeout, received and sent, and then
closed it. -/
def IsServed (s last : Socket) : Prop :=
  ∃ own, last.events = s.events ++ own ++ [.closed] ∧ ∀ e ∈ own, e.isServing = true

theorem isServed_close (h : s.Heard s') (tries : Nat) (chunks : List Bytes) :
    IsServed s (s'.afterSends tries chunks).close := by
  obtain ⟨own, hown, hquiet⟩ := h.events
  refine ⟨own ++ chunks.map .sent, by simp [hown], fun e he => ?_⟩
  rcases List.mem_append.1 he with he | he
  · exact Event.isServing_of_isQuiet (hquiet e he)
  · obtain ⟨chunk, _, rfl⟩ := List.mem_map.1 he
    rfl

/-- A host comes to an end before it has a buffer, or handles one. Up to there the handshake does
not matter. -/
theorem run_cases (t : Table) (a : RootAlias) (timeout : Value) (s : Socket) :
    (∃ finished, IsServed s finished.socket ∧
      ∀ handshake : Option (Handshake α), run t a handshake timeout s = finished) ∨
    ∃ buffer heard, HasHeard timeout s buffer heard ∧
      ∀ handshake : Option (Handshake α), run t a handshake timeout s =
        conclude (Exchange.handle buffer t a
          (handshake.map fun act => (Exchange.upgradeHeader, act)) heard) := by
  rcases hstart : applyTimeout timeout s with ⟨_ | _, start⟩
  case error e =>
    refine .inl ⟨abandon e a [] start, isServed_close (heard_applyTimeout hstart) 0 [], ?_⟩
    intro handshake
    rw [run, hstart]
  case ok =>
    rcases hreceived : receiveHead start headLimit with ⟨_ | buffer, heard⟩
    case error e =>
      have hheard := (heard_applyTimeout hstart).trans (heard_receiveHead hreceived)
      refine .inl ⟨abandon e a [] heard, isServed_close hheard 0 [], ?_⟩
      intro handshake
      rw [run, hstart]
      dsimp only
      rw [hreceived]
    case ok =>
      have hheard := hasHeard_of_received hstart hreceived
      by_cases hempty : buffer = []
      · refine .inl ⟨⟨a, [], heard.close⟩, isServed_close hheard.quiet 0 [], ?_⟩
        intro handshake
        rw [run_received hstart hreceived, if_pos hempty]
      · refine .inr ⟨buffer, heard, hheard, ?_⟩
        intro handshake
        rw [run_received hstart hreceived, if_neg hempty]

theorem isServed_none (h : HasHeard timeout s buffer heard) (t : Table) (a : RootAlias) :
    let handled := Exchange.handle buffer t a (none : Option (Text × Handshake α)) heard
    IsServed s (conclude handled).socket := by
  intro handled
  obtain ⟨_, _, tries, chunks, hconclude⟩ := conclude_none_alike α buffer t a heard
  rw [(hconclude heard ⟨rfl, rfl⟩).2]
  exact isServed_close h.quiet tries chunks

/-- Without a handshake every connection is served to its end. -/
theorem isServed_run_none (t : Table) (a : RootAlias) (timeout : Value) (s : Socket) :
    IsServed s (run t a (none : Option (Handshake α)) timeout s).socket := by
  rcases run_cases t a timeout s with ⟨last, hserved, hrun⟩ | ⟨buffer, heard, hheard, hrun⟩
  · rw [hrun none]
    exact hserved
  · rw [hrun none]
    exact isServed_none hheard t a

end Host
end AssetBundle
