import AssetBundle.Proofs.Connection.Receiving

/-!
# AssetBundle.Proofs.Connection.Stopping

How far a host reads. The rules of receiving leave no choice (`Receives.unique`), and chunks that do
not fill the buffer yet are all taken in (`Receives.over`). So of chunks that arrive one by one a
host takes the fewest that hold a head or reach the limit, and does not touch the connection behind
them (`receiveHead_stops`). A chunk is bounded, so what is received stays near the limit
(`Receives.length_lt`).
-/

namespace AssetBundle

namespace Socket

/-- A connection behind receives that gave these chunks, and what is left to arrive on it. -/
def afterReceives (s : Socket) (taken : List Bytes) (left : List Incoming) : Socket :=
  { s with
    incoming := left
    history := (taken.map fun chunk => .received chunk.length).reverse ++ s.history }

theorem afterReceives_afterReceives (s : Socket) (taken more : List Bytes)
    (left rest : List Incoming) :
    (s.afterReceives taken left).afterReceives more rest =
      s.afterReceives (taken ++ more) rest := by
  simp [afterReceives]

theorem afterReceives_nil {s : Socket} {left : List Incoming} (h : s.incoming = left) :
    s.afterReceives [] left = s := by
  rw [afterReceives, ← h]
  rfl

variable {s s' : Socket} {chunk : Bytes} {rest : List Incoming} {size : Nat}

theorem receive_chunk (h : s.incoming = .bytes chunk :: rest) (hsize : chunk.length ≤ size) :
    s.receive size = (.ok chunk, s.afterReceives [chunk] rest) := by
  rw [receive, h]
  dsimp only
  rw [if_pos hsize]
  rfl

theorem receive_failure {e : Failure} (h : s.incoming = .failure e :: rest) :
    s.receive size = (.error e, s.afterReceives [] rest) := by
  rw [receive, h]
  rfl

theorem receive_end (h : s.incoming = []) : s.receive size = (.ok [], s) := by
  rw [receive, h]

theorem length_receive {result : Bytes} (h : s.receive size = (.ok result, s')) :
    result.length ≤ size := by
  rw [receive] at h
  split at h
  · cases h
    exact Nat.zero_le size
  · cases h
  · split at h
    · next hsize =>
      cases h
      exact hsize
    · cases h
      exact List.length_take_le _ _

end Socket

namespace Host

variable {limit : Int} {buffer : Bytes} {s : Socket} {received : Outcome Bytes × Socket}

/-- The rules leave no choice. -/
theorem Receives.unique {received' : Outcome Bytes × Socket} (h : Receives limit buffer s received)
    (h' : Receives limit buffer s received') : received = received' := by
  induction h with
  | full hfull =>
    cases h' with
    | full _ => rfl
    | ended hopen _ | failed hopen _ | more hopen _ _ _ => exact absurd hfull hopen
  | ended hopen hreceive =>
    cases h' with
    | full hfull => exact absurd hfull hopen
    | ended _ hreceive' =>
      cases hreceive.symm.trans hreceive'
      rfl
    | failed _ hreceive' => cases hreceive.symm.trans hreceive'
    | more _ hreceive' hchunk _ =>
      cases hreceive.symm.trans hreceive'
      exact absurd rfl hchunk
  | failed hopen hreceive =>
    cases h' with
    | full hfull => exact absurd hfull hopen
    | ended _ hreceive' | more _ hreceive' _ _ => cases hreceive.symm.trans hreceive'
    | failed _ hreceive' =>
      cases hreceive.symm.trans hreceive'
      rfl
  | more hopen hreceive hchunk _ ih =>
    cases h' with
    | full hfull => exact absurd hfull hopen
    | ended _ hreceive' =>
      cases hreceive.symm.trans hreceive'
      exact absurd rfl hchunk
    | failed _ hreceive' => cases hreceive.symm.trans hreceive'
    | more _ hreceive' _ hrest =>
      cases hreceive.symm.trans hreceive'
      exact ih hrest

/-- Whether chunks can arrive as they are, each by a receive of its own. -/
def IsScript (chunks : List Bytes) : Prop := ∀ chunk ∈ chunks, chunk ≠ [] ∧ chunk.length ≤ 4096

/-- Chunks are taken in one after another as long as the buffer in front of each is not full. -/
theorem Receives.over {chunks : List Bytes} {left : List Incoming} (hchunks : IsScript chunks) :
    ∀ {buffer : Bytes} {s : Socket}, s.incoming = chunks.map .bytes ++ left →
      (∀ j < chunks.length, ¬ IsFull limit (buffer ++ (chunks.take j).flatten)) →
      Receives limit (buffer ++ chunks.flatten) (s.afterReceives chunks left) received →
      Receives limit buffer s received := by
  induction chunks with
  | nil =>
    intro buffer s hincoming _ h
    have hleft : s.incoming = left := hincoming
    rwa [List.flatten_nil, List.append_nil, Socket.afterReceives_nil hleft] at h
  | cons chunk chunks ih =>
    intro buffer s hincoming hopen h
    obtain ⟨⟨hchunk, hsize⟩, hrest⟩ := List.forall_mem_cons.1 hchunks
    have hfirst : ¬ IsFull limit buffer := by
      simpa using hopen 0 (Nat.succ_pos _)
    refine .more hfirst (Socket.receive_chunk hincoming hsize) hchunk (ih hrest rfl ?_ ?_)
    · intro j hj
      have hnext := hopen (j + 1) (Nat.succ_lt_succ hj)
      rwa [List.take_succ_cons, List.flatten_cons, ← List.append_assoc] at hnext
    · rwa [Socket.afterReceives_afterReceives, List.append_assoc, ← List.flatten_cons]

/-- What is received goes beyond the limit by less than one chunk. -/
theorem Receives.length_lt (h : Receives limit buffer s received)
    (hbuffer : (buffer.length : Int) < limit + 4096) {result : Bytes} {s' : Socket}
    (hreceived : received = (.ok result, s')) : (result.length : Int) < limit + 4096 := by
  induction h with
  | full _ | ended _ _ =>
    cases hreceived
    exact hbuffer
  | failed _ _ => cases hreceived
  | more hopen hreceive _ _ ih =>
    refine ih ?_ hreceived
    have hlimit := (not_or.1 hopen).2
    have hlength := Socket.length_receive hreceive
    rw [receiveSize] at hlength
    rw [List.length_append]
    omega

/-- Of chunks that arrive one by one a host takes the fewest that hold a head or reach the limit,
and does nothing else on the connection. If no number of them does, it takes them all, and the end
of the stream, or a failure in its place, is what it meets behind them. -/
theorem receiveHead_stops {chunks : List Bytes} {left : List Incoming} (hchunks : IsScript chunks)
    (hincoming : s.incoming = chunks.map .bytes ++ left) :
    (∀ k ≤ chunks.length, IsFull limit (chunks.take k).flatten →
      (∀ j < k, ¬ IsFull limit (chunks.take j).flatten) →
      receiveHead s limit = (.ok (chunks.take k).flatten,
        s.afterReceives (chunks.take k) ((chunks.drop k).map .bytes ++ left))) ∧
    ((∀ k ≤ chunks.length, ¬ IsFull limit (chunks.take k).flatten) →
      (left = [] → receiveHead s limit = (.ok chunks.flatten, s.afterReceives chunks [])) ∧
      (∀ rest, left = .bytes [] :: rest →
        receiveHead s limit = (.ok chunks.flatten, s.afterReceives (chunks ++ [[]]) rest)) ∧
      (∀ e rest, left = .failure e :: rest →
        receiveHead s limit = (.error e, s.afterReceives chunks rest))) ∧
    (0 < limit → ∀ result s', receiveHead s limit = (.ok result, s') →
      (result.length : Int) < limit + 4096) := by
  have hreceives := receives_receiveHead s limit
  refine ⟨fun k hk hfull hfirst => ?_, fun hopen => ?_, fun hlimit result s' hresult => ?_⟩
  · have htaken : IsScript (chunks.take k) := fun chunk h => hchunks chunk (List.mem_of_mem_take h)
    have hsplit : s.incoming =
        (chunks.take k).map .bytes ++ ((chunks.drop k).map .bytes ++ left) := by
      rw [← List.append_assoc, ← List.map_append, List.take_append_drop, hincoming]
    refine hreceives.unique (.over htaken hsplit (fun j hj => ?_) (.full hfull))
    rw [List.length_take, Nat.min_eq_left hk] at hj
    rw [List.nil_append, List.take_take, Nat.min_eq_left (Nat.le_of_lt hj)]
    exact hfirst j hj
  · have hall : ¬ IsFull limit ([] ++ chunks.flatten) := by
      simpa using hopen chunks.length (Nat.le_refl _)
    have hover : ∀ {received}, Receives limit ([] ++ chunks.flatten) (s.afterReceives chunks left)
        received → receiveHead s limit = received := fun h =>
      hreceives.unique (.over hchunks hincoming (fun j hj => hopen j (Nat.le_of_lt hj)) h)
    refine ⟨?_, ?_, ?_⟩
    · rintro rfl
      exact hover (.ended hall (Socket.receive_end rfl))
    · rintro rest rfl
      rw [← Socket.afterReceives_afterReceives]
      exact hover (.ended hall (Socket.receive_chunk rfl (Nat.zero_le _)))
    · rintro e rest rfl
      have hnone : (s.afterReceives chunks (.failure e :: rest)).afterReceives [] rest =
          s.afterReceives chunks rest := by
        rw [Socket.afterReceives_afterReceives, List.append_nil]
      rw [← hnone]
      exact hover (.failed hall (Socket.receive_failure rfl))
  · refine hreceives.length_lt ?_ hresult
    rw [List.length_nil]
    omega

/-- The end of a head that is spread over three chunks, with one more behind them. -/
theorem receiveHead_stops_spread :
    let chunks : List Bytes := [[71, 13], [10, 13], [10, 1], [2]]
    let s := Socket.ofIncoming (chunks.map .bytes)
    IsScript chunks ∧ receiveHead s headLimit = (.ok [71, 13, 10, 13, 10, 1],
      s.afterReceives [[71, 13], [10, 13], [10, 1]] [.bytes [2]]) := by
  intro chunks s
  have hchunks : IsScript chunks := by
    unfold IsScript
    decide
  have hincoming : s.incoming = chunks.map .bytes ++ [] := rfl
  have hfull : IsFull headLimit (chunks.take 3).flatten := .inl (by decide)
  have hfirst : ∀ j < 3, ¬ IsFull headLimit (chunks.take j).flatten := by
    unfold IsFull
    decide
  exact ⟨hchunks, (receiveHead_stops hchunks hincoming).1 3 (by decide) hfull hfirst⟩

end Host
end AssetBundle
