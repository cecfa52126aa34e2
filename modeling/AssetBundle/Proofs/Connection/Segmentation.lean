import AssetBundle.Proofs.Connection.Ownership
import AssetBundle.Proofs.Http.Response
import AssetBundle.Service.Requests

/-!
# AssetBundle.Proofs.Connection.Segmentation

How a request is cut into chunks on its way does not matter. What a host receives of a stream can
reach past the head of the request by more or less, but the head is there if it ends within the
limit (`receiveHead_cut`), and a stream without a head that stays below the limit is received as a
whole (`receiveHead_open`). What follows a head is not looked at without a handshake, so the same is
answered (`Service.connect_segmented`).
-/

namespace AssetBundle

namespace Socket

/-- A connection on which chunks arrive, and the sends of some numbers fail. -/
def arriving (sendFault : Nat → Option Failure) (chunks : List Bytes) : Socket :=
  ⟨chunks.map .bytes, sendFault, none, 0, []⟩

/-- Whether a stream can arrive in these chunks. -/
structure IsArrival (stream : Bytes) (chunks : List Bytes) : Prop where
  whole : chunks.flatten = stream
  nonempty : ∀ chunk ∈ chunks, chunk ≠ []

theorem Heard.alike_sink {fault : Nat → Option Failure} {chunks : List Bytes} {heard : Socket}
    (h : (arriving fault chunks).Heard heard) : (sink fault).SendsAlike heard :=
  ⟨h.sendFault, h.attempts⟩

end Socket

namespace Host

open Socket (arriving IsArrival sink)

variable {stream line rest : Bytes} {chunks : List Bytes} (fault : Nat → Option Failure)

/-- Of a stream a part in front is received, which is all of it or is read no further. -/
theorem receiveHead_arriving (h : IsArrival stream chunks) :
    ∃ buffer behind heard, receiveHead (arriving fault chunks) headLimit = (.ok buffer, heard) ∧
      (arriving fault chunks).Heard heard ∧ stream = buffer ++ behind ∧
      (IsFull headLimit buffer ∨ behind = []) := by
  obtain ⟨buffer, behind, heard, hreceived, hheard, hwhole, hstop⟩ :=
    (receives_receiveHead (arriving fault chunks) headLimit).stream rfl h.nonempty
  exact ⟨buffer, behind, heard, hreceived, hheard, h.whole.symm.trans hwhole, hstop⟩

/-- The head is received if it ends within the limit. -/
theorem receiveHead_cut (h : IsArrival stream chunks)
    (hcut : Sequence.IsCut Request.headEnd stream line rest)
    (hlimit : line.length + 4 ≤ 65536) :
    ∃ more heard, (arriving fault chunks).Heard heard ∧
      receiveHead (arriving fault chunks) headLimit =
        (.ok (line ++ Request.headEnd ++ more), heard) := by
  obtain ⟨buffer, behind, heard, hreceived, hheard, hwhole, hstop⟩ := receiveHead_arriving fault h
  have hfront : buffer <+: stream := ⟨behind, hwhole.symm⟩
  have hend : Request.headEnd <:+: buffer := by
    rcases hstop with (hend | hlong) | rfl
    · exact hend
    · -- what reached the limit reaches past the head
      have hhead : line ++ Request.headEnd <+: stream := ⟨rest, by rw [hcut.whole]; simp⟩
      have hlength : (line ++ Request.headEnd).length ≤ buffer.length := by
        simp only [headLimit] at hlong
        simp [Request.headEnd]
        omega
      exact (List.suffix_append _ _).isInfix.trans
        (List.prefix_of_prefix_length_le hhead hfront hlength).isInfix
    · rw [List.append_nil] at hwhole
      rw [← hwhole, hcut.whole]
      exact ⟨line, rest, by simp⟩
  obtain ⟨more, hmore⟩ := hcut.of_prefix hfront hend
  exact ⟨more, heard, hheard, by rw [hreceived, hmore, List.append_assoc]⟩

/-- A stream without a head is received as a whole if it stays below the limit. -/
theorem receiveHead_open (h : IsArrival stream chunks) (hopen : ¬ Request.headEnd <:+: stream)
    (hlimit : stream.length < 65536) :
    ∃ heard, (arriving fault chunks).Heard heard ∧
      receiveHead (arriving fault chunks) headLimit = (.ok stream, heard) := by
  obtain ⟨buffer, behind, heard, hreceived, hheard, rfl, hstop⟩ := receiveHead_arriving fault h
  rcases hstop with (hend | hlong) | rfl
  · exact absurd (hend.trans (List.prefix_append _ _).isInfix) hopen
  · simp only [headLimit] at hlong
    simp at hlimit
    omega
  · exact ⟨heard, hheard, by rw [List.append_nil, hreceived]⟩

/-- Which request a stream offers: its head, if that ends within the limit, or all of it, if it
stays below the limit and has none. -/
def Offers (stream request : Bytes) : Prop :=
  (∃ line rest, Sequence.IsCut Request.headEnd stream line rest ∧ line.length + 4 ≤ 65536 ∧
    request = line ++ Request.headEnd) ∨
  (¬ Request.headEnd <:+: stream ∧ stream.length < 65536 ∧ request = stream)

/-- Whichever way a stream arrives, a host without a handshake handles what it offers. -/
theorem run_arriving (α : Type) {request : Bytes} (t : Table) (a : RootAlias)
    (h : IsArrival stream chunks) (hoffers : Offers stream request) :
    ∃ heard, (arriving fault chunks).Heard heard ∧
      run t a (none : Option (Handshake α)) .none (arriving fault chunks) =
        if stream = [] then ⟨a, [], heard.close⟩
        else conclude (Exchange.handle request t a (none : Option (Text × Handshake α)) heard) := by
  rcases hoffers with ⟨line, rest, hcut, hlimit, rfl⟩ | ⟨hopen, hlimit, rfl⟩
  · obtain ⟨more, heard, hheard, hreceived⟩ := receiveHead_cut fault h hcut hlimit
    have hbuffer : line ++ Request.headEnd ++ more ≠ [] := by simp [Request.headEnd]
    have hstream : stream ≠ [] := by simp [hcut.whole, Request.headEnd]
    refine ⟨heard, hheard, ?_⟩
    rw [run_received rfl hreceived, if_neg hbuffer, if_neg hstream, Option.map_none,
      Exchange.handle_none_append hcut.alone]
  · obtain ⟨heard, hheard, hreceived⟩ := receiveHead_open fault h hopen hlimit
    exact ⟨heard, hheard, run_received rfl hreceived⟩

end Host

namespace Service

variable {stream request : Bytes}

/-- What is sent, and what becomes of the service, is a matter of what the stream offers. -/
theorem connect_arriving (α : Type) (s : Service) (fault : Nat → Option Failure)
    (hoffers : Host.Offers stream request) :
    ∃ sent after,
      (sent = if stream = [] then []
        else (s.handle request (none : Option (Text × Handshake α)) (Socket.sink fault)).2.1.sent) ∧
      ∀ {chunks : List Bytes}, Socket.IsArrival stream chunks →
        let finished := s.connect (none : Option (Handshake α)) .none (Socket.arriving fault chunks)
        finished.1.sent = sent ∧ finished.2 = after := by
  obtain ⟨decided, log, tries, sends, halike⟩ :=
    Host.conclude_none_alike α request s.registry.active s.registry.rootAlias (Socket.sink fault)
  by_cases hstream : stream = []
  · refine ⟨[], ((s.report []).keepAlias none s.registry.rootAlias).2, by rw [if_pos hstream],
      fun {chunks} h => ?_⟩
    obtain ⟨heard, hheard, hrun⟩ := Host.run_arriving fault α s.registry.active
      s.registry.rootAlias h hoffers
    rw [connect, hrun, if_pos hstream]
    exact ⟨by rw [Socket.sent_close, hheard.sent]; rfl, rfl⟩
  · refine ⟨sends, ((s.report log).keepAlias none decided).2, ?_, fun {chunks} h => ?_⟩
    · rw [if_neg hstream, handle, (halike _ ⟨rfl, rfl⟩).1, Socket.sent_afterSends]
      rfl
    · obtain ⟨heard, hheard, hrun⟩ := Host.run_arriving fault α s.registry.active
        s.registry.rootAlias h hoffers
      rw [connect, hrun, if_neg hstream, (halike heard hheard.alike_sink).2]
      exact ⟨by rw [Socket.sent_close, Socket.sent_afterSends, hheard.sent]; rfl, rfl⟩

/-- A buffer without a head is answered by the response for a bad request. -/
theorem sent_handle_open (α : Type) (s : Service) (socket : Socket)
    (hopen : ¬ Request.headEnd <:+: request) :
    (s.handle request (none : Option (Text × Handshake α)) socket).2.1 =
      (Exchange.deliver (.ofError 400) socket).2 := by
  have hend := Sequence.contains_eq_false_iff.2 hopen
  rw [handle, Exchange.handle_none, hend]
  rfl

/-- The same is answered in whichever way a stream arrives, and the connection is closed. If the
stream has a head that ends within the limit it is what the head alone is answered by. If it has
none and stays below the limit, nothing is sent on an empty stream, and else the response for a bad
request. -/
theorem connect_segmented {α : Type} (s : Service) (fault : Nat → Option Failure)
    {xs ys : List Bytes} (hx : Socket.IsArrival stream xs) (hy : Socket.IsArrival stream ys) :
    let run := fun chunks =>
      s.connect (none : Option (Handshake α)) .none (Socket.arriving fault chunks)
    Host.IsServed (Socket.arriving fault xs) (run xs).1 ∧
    Host.IsServed (Socket.arriving fault ys) (run ys).1 ∧
    (∀ line rest, Sequence.IsCut Request.headEnd stream line rest → line.length + 4 ≤ 65536 →
      (run xs).1.sent = (run ys).1.sent ∧ (run xs).2 = (run ys).2 ∧
      (run xs).1.sent = (s.handle (line ++ Request.headEnd)
        (none : Option (Text × Handshake α)) (Socket.sink fault)).2.1.sent) ∧
    (¬ Request.headEnd <:+: stream → stream.length < 65536 →
      (run xs).1.sent = (run ys).1.sent ∧ (run xs).2 = (run ys).2 ∧
      (stream = [] → (run xs).1.sent = []) ∧
      (stream ≠ [] →
        (run xs).1.sent = (Exchange.deliver (.ofError 400) (Socket.sink fault)).2.sent ∧
        ((∀ n, fault n = none) → ∃ head, (Response.ofError 400).encodeHead = .ok head ∧
          (run xs).1.sent = [head, (Response.ofError 400).body]))) := by
  intro run
  refine ⟨Host.isServed_run_none _ _ _ _, Host.isServed_run_none _ _ _ _, ?_, ?_⟩
  · intro line rest hcut hlimit
    obtain ⟨sent, after, hsent, hrun⟩ :=
      connect_arriving α s fault (.inl ⟨line, rest, hcut, hlimit, rfl⟩)
    have hstream : stream ≠ [] := by simp [hcut.whole, Request.headEnd]
    rw [if_neg hstream] at hsent
    refine ⟨(hrun hx).1.trans (hrun hy).1.symm, (hrun hx).2.trans (hrun hy).2.symm, ?_⟩
    exact (hrun hx).1.trans hsent
  · intro hopen hlimit
    obtain ⟨sent, after, hsent, hrun⟩ := connect_arriving α s fault (.inr ⟨hopen, hlimit, rfl⟩)
    refine ⟨(hrun hx).1.trans (hrun hy).1.symm, (hrun hx).2.trans (hrun hy).2.symm, ?_, ?_⟩
    · intro hstream
      rw [if_pos hstream] at hsent
      exact (hrun hx).1.trans hsent
    · intro hstream
      rw [if_neg hstream, sent_handle_open α s _ hopen] at hsent
      have hdelivered := (hrun hx).1.trans hsent
      refine ⟨hdelivered, fun hfault => ?_⟩
      have hhead := Response.encodeHead_eq_ok (Response.isLatin1_ofError 400)
      obtain ⟨last, hlast, hall⟩ :=
        Exchange.deliver_ok (s := Socket.sink fault) hfault hhead
      refine ⟨_, hhead, ?_⟩
      rw [hdelivered, hlast, hall]
      rfl

/-- A request that arrives at once, and one that is cut inside the end of its head. -/
theorem connect_segmented_split :
    let line := ("GET / HTTP/1.1" : Text).flatMap Utf8.encodePoint
    let stream := line ++ [13, 10, 13, 10, 1, 2]
    let ys := [line ++ [13], [10, 13], [10, 1], [2]]
    let s := Service.initial "" .empty
    let run := fun chunks => (s.connect (none : Option (Handshake Unit)) .none
      (Socket.arriving (fun _ => none) chunks)).1.sent
    Socket.IsArrival stream [stream] ∧ Socket.IsArrival stream ys ∧ run [stream] = run ys ∧
      run ys = (s.handle (line ++ Request.headEnd) (none : Option (Text × Handshake Unit))
        (Socket.sink fun _ => none)).2.1.sent := by
  intro line stream ys s run
  have hx : Socket.IsArrival stream [stream] := ⟨by decide, by decide⟩
  have hy : Socket.IsArrival stream ys := ⟨by decide, by decide⟩
  have hcut : Sequence.IsCut Request.headEnd stream line [1, 2] :=
    (Sequence.cutAt?_eq_some_iff (by decide)).1 (by decide +kernel)
  obtain ⟨_, _, hhead, _⟩ := connect_segmented s (fun _ => none) hx hy
  obtain ⟨hsame, _, hsent⟩ := hhead line [1, 2] hcut (by decide)
  exact ⟨hx, hy, hsame, hsame.symm.trans hsent⟩

end Service
end AssetBundle
