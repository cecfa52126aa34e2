import AssetBundle.Http.Exchange

/-!
# AssetBundle.Proofs.Connection.Chunks

Sending piece by piece. Chunks are sent one after the other until a send fails (`sendAll`): those in
front of the first failure reach the peer, and nothing is tried behind it (`sendAll_of_failsAt`).
Delivering a response is sending its head, and its body if there is one, in this way
(`deliver_of_ok`).
-/

namespace AssetBundle

namespace Socket

/-- A connection after so many sends, of which those of the chunks succeeded. -/
def afterSends (s : Socket) (tries : Nat) (chunks : List Bytes) : Socket :=
  { s with attempts := s.attempts + tries, history := (chunks.map .sent).reverse ++ s.history }

@[simp] theorem events_afterSends (s : Socket) (tries : Nat) (chunks : List Bytes) :
    (s.afterSends tries chunks).events = s.events ++ chunks.map .sent := by
  simp [afterSends, events]

@[simp] theorem sent_afterSends (s : Socket) (tries : Nat) (chunks : List Bytes) :
    (s.afterSends tries chunks).sent = s.sent ++ chunks := by
  rw [sent, events_afterSends, List.filterMap_append, List.filterMap_map, sent]
  congr 1
  exact List.filterMap_some

theorem afterSends_afterSends (s : Socket) (m n : Nat) (chunks more : List Bytes) :
    (s.afterSends m chunks).afterSends n more = s.afterSends (m + n) (chunks ++ more) := by
  simp [afterSends, Nat.add_assoc]

/-- A send is tried once, and it sends all or nothing. -/
theorem send_eq (s : Socket) (chunk : Bytes) :
    s.send chunk =
      match s.sendFault s.attempts with
      | none => (.ok (), s.afterSends 1 [chunk])
      | some e => (.error e, s.afterSends 1 []) := by
  rw [send]
  cases s.sendFault s.attempts <;> rfl

/-- Sends chunks in order until one fails. -/
def sendAll (s : Socket) : List Bytes → Outcome Unit × Socket
  | [] => (.ok (), s)
  | chunk :: rest =>
    match s.send chunk with
    | (.error e, s) => (.error e, s)
    | (.ok (), s) => s.sendAll rest

/-- Whether the next so many sends succeed. -/
def SendsNext (s : Socket) (n : Nat) : Prop := ∀ j < n, s.sendFault (s.attempts + j) = none

/-- Whether the next `k` sends succeed and the one behind them fails. -/
structure FailsAt (s : Socket) (k : Nat) (e : Failure) : Prop where
  meets : s.sendFault (s.attempts + k) = some e
  before : s.SendsNext k

variable {s : Socket}

theorem SendsNext.next {n : Nat} (h : s.SendsNext (n + 1)) (chunks : List Bytes) :
    s.sendFault s.attempts = none ∧ (s.afterSends 1 chunks).SendsNext n := by
  refine ⟨h 0 (Nat.succ_pos n), fun j hj => ?_⟩
  have hrest := h (j + 1) (Nat.succ_lt_succ hj)
  rwa [Nat.add_comm j 1, ← Nat.add_assoc] at hrest

theorem FailsAt.next {k : Nat} {e : Failure} (h : s.FailsAt (k + 1) e) (chunks : List Bytes) :
    s.sendFault s.attempts = none ∧ (s.afterSends 1 chunks).FailsAt k e := by
  obtain ⟨hfirst, hbefore⟩ := h.before.next chunks
  refine ⟨hfirst, ?_, hbefore⟩
  have hmeets := h.meets
  rwa [Nat.add_comm k 1, ← Nat.add_assoc] at hmeets

theorem sendsNext_or_failsAt (s : Socket) (n : Nat) :
    s.SendsNext n ∨ ∃ k e, k < n ∧ s.FailsAt k e := by
  induction n with
  | zero => exact .inl fun j hj => absurd hj (Nat.not_lt_zero j)
  | succ n ih =>
    rcases ih with hnext | ⟨k, e, hk, hfails⟩
    · cases hfault : s.sendFault (s.attempts + n) with
      | some e => exact .inr ⟨n, e, Nat.lt_succ_self n, hfault, hnext⟩
      | none =>
        refine .inl fun j hj => ?_
        rcases Nat.lt_succ_iff_lt_or_eq.1 hj with hj | rfl
        · exact hnext j hj
        · exact hfault
    · exact .inr ⟨k, e, Nat.lt_succ_of_lt hk, hfails⟩

theorem sendAll_of_sendsNext {chunks : List Bytes} (h : s.SendsNext chunks.length) :
    s.sendAll chunks = (.ok (), s.afterSends chunks.length chunks) := by
  induction chunks generalizing s with
  | nil => rfl
  | cons chunk rest ih =>
    obtain ⟨hfirst, hrest⟩ := SendsNext.next h [chunk]
    rw [sendAll, send_eq, hfirst]
    dsimp only
    rw [ih hrest, afterSends_afterSends, Nat.add_comm]
    rfl

/-- The chunks in front of the first failure are sent, and nothing is tried behind it. -/
theorem sendAll_of_failsAt {chunks : List Bytes} {k : Nat} {e : Failure} (h : s.FailsAt k e)
    (hk : k < chunks.length) :
    s.sendAll chunks = (.error e, s.afterSends (k + 1) (chunks.take k)) := by
  induction chunks generalizing s k with
  | nil => exact absurd hk (Nat.not_lt_zero k)
  | cons chunk rest ih =>
    cases k with
    | zero =>
      have hfirst : s.sendFault s.attempts = some e := h.meets
      rw [sendAll, send_eq, hfirst]
      rfl
    | succ k =>
      -- Behind the first chunk the failure is one send nearer.
      obtain ⟨hfirst, hrest⟩ := h.next [chunk]
      rw [sendAll, send_eq, hfirst]
      dsimp only
      rw [ih hrest (Nat.lt_of_succ_lt_succ hk), afterSends_afterSends, Nat.add_comm 1]
      rfl

end Socket

namespace Exchange

/-- The chunks of a response: its head, and its body if there is one. -/
def chunksOf (head : Bytes) (r : Response) : List Bytes :=
  head :: if r.body.isEmpty then [] else [r.body]

theorem flatten_chunksOf (head : Bytes) (r : Response) :
    (chunksOf head r).flatten = head ++ r.body := by
  rw [chunksOf]
  split
  · next hempty => rw [List.isEmpty_iff.1 hempty]; rfl
  · simp

theorem deliver_of_error {r : Response} {e : Failure} (h : r.encodeHead = .error e) (s : Socket) :
    deliver r s = (.error e, s) := by
  rw [deliver, h]

/-- A response whose head can be encoded is sent chunk by chunk. -/
theorem deliver_of_ok {r : Response} {head : Bytes} (h : r.encodeHead = .ok head) (s : Socket) :
    deliver r s = ((s.sendAll (chunksOf head r)).1.mapError gone,
      (s.sendAll (chunksOf head r)).2) := by
  rw [deliver, h, chunksOf]
  dsimp only [Socket.sendAll]
  rcases s.send head with ⟨_ | _, s⟩
  · rfl
  · cases r.body.isEmpty with
    | true => rfl
    | false =>
      rw [if_neg Bool.false_ne_true]
      dsimp only [Socket.sendAll]
      rcases s.send r.body with ⟨_ | _, s⟩ <;> rfl

end Exchange
end AssetBundle
