import AssetBundle.Connection.Host
import AssetBundle.Proofs.Cutting

/-!
# AssetBundle.Proofs.Connection.Receiving

What a host receives. `Receives` says it in rules: a buffer is read on until it has a head, has
reached the limit, or the peer stops sending. The loop keeps its chunks apart, looks for the end of
the head only where it can have come to stand, and counts down a bound on the receives that are
left; it comes to what the rules say (`receives_receiveHead`).

* `Receives.takes`: what was received are the chunks that the connection gave, one after another.
* `Takes.heard`: receiving does nothing else on a connection.
* `Receives.stream`: of a stream of bytes a part in front is received, which is all of it or is one
  that is read no further.
-/

namespace AssetBundle

namespace Event

/-- Whether a call only sets the timeout or receives. -/
def isQuiet : Event → Bool
  | .timeout _ | .received _ => true
  | _ => false

end Event

namespace Socket

/-- Receives that give these chunks, one after another. The last chunk is empty if the peer has
stopped sending. -/
inductive Takes : Socket → List Bytes → Socket → Prop
  | nil (s : Socket) : Takes s [] s
  | cons {s s' s'' : Socket} {chunk : Bytes} {chunks : List Bytes} :
      s.receive Host.receiveSize = (.ok chunk, s') → Takes s' chunks s'' →
        Takes s (chunk :: chunks) s''

/-- Whether one connection comes of another by calls that are quiet. -/
structure Heard (s s' : Socket) : Prop where
  sendFault : s'.sendFault = s.sendFault
  attempts : s'.attempts = s.attempts
  events : ∃ own, s'.events = s.events ++ own ∧ ∀ e ∈ own, e.isQuiet = true

variable {s s' s'' : Socket}

theorem Heard.refl (s : Socket) : s.Heard s := ⟨rfl, rfl, [], by simp⟩

theorem Heard.trans (h : s.Heard s') (h' : s'.Heard s'') : s.Heard s'' := by
  obtain ⟨own, hown, hquiet⟩ := h.events
  obtain ⟨more, hmore, hquiet'⟩ := h'.events
  refine ⟨h'.sendFault.trans h.sendFault, h'.attempts.trans h.attempts, own ++ more, ?_, ?_⟩
  · rw [hmore, hown, List.append_assoc]
  · intro e he
    rcases List.mem_append.1 he with he | he
    · exact hquiet e he
    · exact hquiet' e he

theorem heard_record (s : Socket) {e : Event} (h : e.isQuiet = true) : s.Heard (s.record e) :=
  ⟨rfl, rfl, [e], by simp [events, record], by simpa using h⟩

theorem heard_receive {size : Nat} {outcome : Outcome Bytes}
    (h : s.receive size = (outcome, s')) : s.Heard s' := by
  rw [receive] at h
  split at h
  · cases h
    exact .refl s
  · cases h
    exact ⟨rfl, rfl, [], by simp [events], by simp⟩
  next chunk rest _ =>
    split at h <;> cases h
    · exact ⟨rfl, rfl, [.received chunk.length], by simp [events, record], by simp [Event.isQuiet]⟩
    · exact ⟨rfl, rfl, [.received size], by simp [events, record], by simp [Event.isQuiet]⟩

theorem Takes.heard {chunks : List Bytes} (h : s.Takes chunks s') : s.Heard s' := by
  induction h with
  | nil s => exact .refl s
  | cons hreceive _ ih => exact (heard_receive hreceive).trans ih

/-- A bound on the receives that take in what arrives: one for each byte and one for each item. -/
def reach : List Incoming → Nat
  | [] => 0
  | .bytes chunk :: items => chunk.length + 1 + reach items
  | .failure _ :: items => 1 + reach items

theorem foldl_reach {f : Nat → Incoming → Nat}
    (hbytes : ∀ n chunk, f n (.bytes chunk) = n + chunk.length + 1)
    (hfailure : ∀ n e, f n (.failure e) = n + 1) (items : List Incoming) (n : Nat) :
    items.foldl f n = n + reach items := by
  induction items generalizing n with
  | nil => rfl
  | cons item items ih =>
    rw [List.foldl_cons, ih]
    cases item with
    | bytes chunk => rw [hbytes, reach, ← Nat.add_assoc, ← Nat.add_assoc]
    | failure e => rw [hfailure, reach, ← Nat.add_assoc]

theorem extent_eq (s : Socket) : s.extent = 1 + reach s.incoming :=
  foldl_reach (fun _ _ => rfl) (fun _ _ => rfl) s.incoming 1

/-- A receive that gives something leaves less to receive. -/
theorem extent_receive {size : Nat} {chunk : Bytes} (hsize : 0 < size)
    (h : s.receive size = (.ok chunk, s')) (hchunk : chunk ≠ []) : s'.extent < s.extent := by
  rw [receive] at h
  split at h
  · cases h
    exact absurd rfl hchunk
  · cases h
  next first rest hincoming =>
    rw [extent_eq, extent_eq, hincoming]
    split at h <;> cases h
    · simp [record, reach]
    · simp [record, reach]
      omega

/-- Of a stream that arrives in chunks the next part is received, which is empty only at its end. -/
theorem receive_stream {size : Nat} {outcome : Outcome Bytes} {chunks : List Bytes}
    (hsize : 0 < size) (h : s.receive size = (outcome, s'))
    (hincoming : s.incoming = chunks.map .bytes) (hchunks : ∀ chunk ∈ chunks, chunk ≠ []) :
    ∃ (chunk : Bytes) (rest : List Bytes), outcome = .ok chunk ∧ s'.incoming = rest.map .bytes ∧
      (∀ chunk ∈ rest, chunk ≠ []) ∧ chunks.flatten = chunk ++ rest.flatten ∧
      (chunk = [] → chunks = []) := by
  cases chunks with
  | nil =>
    rw [receive, hincoming] at h
    cases h
    exact ⟨[], [], rfl, hincoming, hchunks, rfl, fun _ => rfl⟩
  | cons chunk rest =>
    obtain ⟨hchunk, hrest⟩ := List.forall_mem_cons.1 hchunks
    rw [List.map_cons] at hincoming
    rw [receive, hincoming] at h
    dsimp only at h
    split at h <;> cases h
    · exact ⟨chunk, rest, rfl, rfl, hrest, rfl, fun hempty => absurd hempty hchunk⟩
    · next hlong =>
      refine ⟨chunk.take size, chunk.drop size :: rest, rfl, rfl, ?_, ?_, ?_⟩
      · refine List.forall_mem_cons.2 ⟨fun hempty => hlong ?_, hrest⟩
        exact List.drop_eq_nil_iff.1 hempty
      · simp [← List.append_assoc]
      · intro hempty
        rcases List.take_eq_nil_iff.1 hempty with hzero | hempty
        · omega
        · exact absurd hempty hchunk

end Socket

namespace Host

variable {limit : Int} {buffer result : Bytes} {s s' : Socket} {outcome : Outcome Bytes}

/-- Whether a buffer is read no further: it has a head, or has reached the limit. -/
def IsFull (limit : Int) (buffer : Bytes) : Prop :=
  Request.headEnd <:+: buffer ∨ limit ≤ buffer.length

/-- Receiving behind a buffer: what comes of it, and the connection afterwards. -/
inductive Receives (limit : Int) : Bytes → Socket → Outcome Bytes × Socket → Prop
  | full {buffer : Bytes} {s : Socket} :
      IsFull limit buffer → Receives limit buffer s (.ok buffer, s)
  | ended {buffer : Bytes} {s s' : Socket} :
      ¬ IsFull limit buffer → s.receive receiveSize = (.ok [], s') →
        Receives limit buffer s (.ok buffer, s')
  | failed {buffer : Bytes} {s s' : Socket} {e : Failure} :
      ¬ IsFull limit buffer → s.receive receiveSize = (.error e, s') →
        Receives limit buffer s (.error e, s')
  | more {buffer chunk : Bytes} {s s' : Socket} {received : Outcome Bytes × Socket} :
      ¬ IsFull limit buffer → s.receive receiveSize = (.ok chunk, s') → chunk ≠ [] →
        Receives limit (buffer ++ chunk) s' received → Receives limit buffer s received

/-- Between receives the loop has no head yet, and holds the last three bytes of the buffer, which
is as far back as an end of the head can reach that is not complete. -/
theorem receives_go (limit : Int) :
    ∀ (fuel : Nat) (chunks : List Bytes) (s : Socket), s.extent ≤ fuel →
      let buffer := chunks.reverse.flatten
      ¬ Request.headEnd <:+: buffer → Receives limit buffer s
        (receiveHead.go limit fuel chunks buffer.length (buffer.drop (buffer.length - 3)) s) := by
  intro fuel
  induction fuel with
  | zero =>
    intro chunks s hfuel
    rw [Socket.extent_eq] at hfuel
    omega
  | succ fuel ih =>
    intro chunks s hfuel buffer hnone
    have hbuffer : buffer.take (buffer.length - 3) ++ buffer.drop (buffer.length - 3) = buffer :=
      List.take_append_drop _ _
    rw [receiveHead.go]
    split
    · next hlimit => exact .full (.inr hlimit)
    next hlimit =>
      have hopen : ¬ IsFull limit buffer := not_or.2 ⟨hnone, hlimit⟩
      split
      · next e s' hreceive => exact .failed hopen hreceive
      next chunk s' hreceive =>
        split
        · next hempty =>
          rw [List.isEmpty_iff.1 hempty] at hreceive
          exact .ended hopen hreceive
        next hempty =>
          have hchunk : chunk ≠ [] := by simpa using hempty
          have hnext : (chunk :: chunks).reverse.flatten = buffer ++ chunk := by simp [buffer]
          refine .more hopen hreceive hchunk ?_
          dsimp only
          rw [hnext]
          split
          · next hfound =>
            refine .full (.inl ?_)
            have hseen : buffer.drop (buffer.length - 3) ++ chunk <:+ buffer ++ chunk :=
              ⟨buffer.take (buffer.length - 3), by rw [← List.append_assoc, hbuffer]⟩
            exact (Sequence.contains_iff_infix.1 hfound).trans hseen.isInfix
          · next hmissing =>
            have hfuel' : s'.extent ≤ fuel := by
              have := Socket.extent_receive (by decide) hreceive hchunk
              omega
            have hgone : ¬ Request.headEnd <:+: (chunk :: chunks).reverse.flatten := by
              rw [hnext]
              intro hend
              refine hmissing (Sequence.contains_iff_infix.2 ?_)
              refine Sequence.infix_behind (hbuffer.symm ▸ hnone) ?_ (hbuffer.symm ▸ hend)
              rcases Nat.le_total buffer.length 3 with hshort | hlong
              · exact .inl (by simp [hshort])
              · exact .inr (by simp [Request.headEnd]; omega)
            have hrest := ih (chunk :: chunks) s' hfuel' hgone
            rw [hnext] at hrest
            rwa [Sequence.drop_end_append, ← List.length_append]

/-- Receiving comes to what the rules say. -/
theorem receives_receiveHead (s : Socket) (limit : Int) :
    Receives limit [] s (receiveHead s limit) :=
  receives_go limit s.extent [] s (Nat.le_refl _) (by decide)

/-- What was received are the chunks that the connection gave one after another, or receiving failed
behind some. -/
theorem Receives.takes {received : Outcome Bytes × Socket} (h : Receives limit buffer s received) :
    ∃ chunks s', s.Takes chunks s' ∧
      (received = (.ok (buffer ++ chunks.flatten), s') ∨
        ∃ e s'', received = (.error e, s'') ∧ s'.receive receiveSize = (.error e, s'')) := by
  induction h with
  | full _ => exact ⟨[], _, .nil _, .inl (by simp)⟩
  | ended _ hreceive => exact ⟨[[]], _, .cons hreceive (.nil _), .inl (by simp)⟩
  | failed _ hreceive => exact ⟨[], _, .nil _, .inr ⟨_, _, rfl, hreceive⟩⟩
  | more _ hreceive _ _ ih =>
    obtain ⟨chunks, last, htakes, hreceived⟩ := ih
    refine ⟨_ :: chunks, last, .cons hreceive htakes, hreceived.imp_left ?_⟩
    rintro rfl
    simp

/-- Of a stream that arrives in chunks a part in front is received. It is the whole stream, or it is
read no further. -/
theorem Receives.stream {received : Outcome Bytes × Socket} (h : Receives limit buffer s received) :
    ∀ {chunks : List Bytes}, s.incoming = chunks.map .bytes → (∀ chunk ∈ chunks, chunk ≠ []) →
      ∃ result rest s', received = (.ok result, s') ∧ s.Heard s' ∧
        buffer ++ chunks.flatten = result ++ rest ∧ (IsFull limit result ∨ rest = []) := by
  induction h with
  | full hfull => exact fun _ _ => ⟨_, _, _, rfl, .refl _, rfl, .inl hfull⟩
  | ended _ hreceive =>
    intro chunks hincoming hchunks
    obtain ⟨chunk, rest, hchunk, _, _, _, hend⟩ :=
      Socket.receive_stream (by decide) hreceive hincoming hchunks
    cases hchunk
    refine ⟨_, [], _, rfl, Socket.heard_receive hreceive, ?_, .inr rfl⟩
    rw [hend rfl]
    rfl
  | failed _ hreceive =>
    intro chunks hincoming hchunks
    obtain ⟨chunk, rest, hchunk, _⟩ := Socket.receive_stream (by decide) hreceive hincoming hchunks
    cases hchunk
  | more _ hreceive _ _ ih =>
    intro chunks hincoming hchunks
    obtain ⟨chunk, rest, hchunk, hincoming', hrest, hflatten, _⟩ :=
      Socket.receive_stream (by decide) hreceive hincoming hchunks
    cases hchunk
    obtain ⟨result, left, last, hreceived, hheard, hwhole, hstop⟩ := ih hincoming' hrest
    refine ⟨result, left, last, hreceived, (Socket.heard_receive hreceive).trans hheard, ?_, hstop⟩
    rw [hflatten, ← List.append_assoc, hwhole]

end Host
end AssetBundle
