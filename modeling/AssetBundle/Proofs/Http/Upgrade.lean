import AssetBundle.Proofs.Http.Decision

/-!
# AssetBundle.Proofs.Http.Upgrade

How far the answer depends on what was received behind the head of a request. A request is read
from its head alone, so what is served never depends on the rest (`serve_append`). Whether the
handshake takes over does: the header's name is looked for in all that was received. Two buffers
with one head go the same way if both mention the name or neither does, which holds whatever
follows a head that mentions it (`handle_same_branch`); a body that mentions it turns the request
over to the handshake (`handle_mention_in_body`).
-/

namespace AssetBundle

open Sequence (IsCut cutAt?_eq_some_iff)

variable {head line : Bytes}

theorem Request.parse_append (hhead : IsCut headEnd head line []) (rest : Bytes) :
    parse (head ++ rest) = parse head := by
  have hend : headEnd ≠ [] := by decide
  rw [parse, parse, (cutAt?_eq_some_iff hend).2 (hhead.append rest),
    (cutAt?_eq_some_iff hend).2 hhead]

namespace Exchange

theorem serve_append (hhead : IsCut Request.headEnd head line []) (rest : Bytes) (t : Table)
    (a : RootAlias) (s : Socket) : serve (head ++ rest) t a s = serve head t a s := by
  rw [serve, serve, Reply.toBuffer, Reply.toBuffer, Request.parse_append hhead]

/-- Whether a buffer mentions a header name: the bytes of the name in lower case stand somewhere
in the buffer, in any case of ASCII letters. -/
def IsMentioned (name : Text) (buffer : Bytes) : Prop :=
  ∃ key, Utf8.encodeOrFail (Text.lower name) = .ok key ∧ key <:+: Bytes.lower buffer

variable {name : Text}

theorem mentions_cases (name : Text) :
    (∃ e, Utf8.encodeOrFail (Text.lower name) = .error e ∧
      ∀ buffer, mentions name buffer = .error e ∧ ¬ IsMentioned name buffer) ∨
      ∀ buffer, (mentions name buffer = .ok true ∧ IsMentioned name buffer) ∨
        (mentions name buffer = .ok false ∧ ¬ IsMentioned name buffer) := by
  cases hkey : Utf8.encodeOrFail (Text.lower name) with
  | error e =>
    refine .inl ⟨e, rfl, fun buffer => ⟨by rw [mentions, hkey], ?_⟩⟩
    rintro ⟨key, hother, _⟩
    rw [hkey] at hother
    cases hother
  | ok key =>
    refine .inr fun buffer => ?_
    rw [mentions, hkey]
    dsimp only
    cases hfound : Sequence.contains key (Bytes.lower buffer) with
    | true => exact .inl ⟨rfl, key, hkey, Sequence.contains_iff_infix.1 hfound⟩
    | false =>
      refine .inr ⟨rfl, ?_⟩
      rintro ⟨other, hother, hinfix⟩
      rw [hkey] at hother
      cases hother
      exact Sequence.contains_eq_false_iff.1 hfound hinfix

theorem IsMentioned.append {buffer : Bytes} (h : IsMentioned name buffer) (rest : Bytes) :
    IsMentioned name (buffer ++ rest) := by
  obtain ⟨key, hkey, hinfix⟩ := h
  refine ⟨key, hkey, hinfix.trans (List.IsPrefix.isInfix ?_)⟩
  rw [Bytes.lower, Bytes.lower, List.map_append]
  exact List.prefix_append _ _

/-- What handling comes to when the handshake takes over. It is given all that was received, and
nothing is sent, decided or logged here. -/
def takeOver {α : Type} (act : Handshake α) (buffer : Bytes) (a : RootAlias) (s : Socket) :
    Handled α :=
  let (outcome, s) := act buffer (s.record (.handshake buffer))
  ⟨outcome.map some, a, [], s⟩

/-- With a handshake a buffer is turned over to it if it is routed there, and is handled as without
one if it is routed anywhere else. -/
theorem handle_some {α : Type} (buffer : Bytes) (act : Handshake α) (t : Table) (a : RootAlias)
    (s : Socket) :
    handle buffer t a (some (name, act)) s =
      match route buffer (some name) with
      | .error e => ⟨.error e, a, [], s⟩
      | .ok .upgrade => takeOver act buffer a s
      | .ok _ => handle buffer t a (none : Option (Text × Handshake α)) s := by
  rw [handle_none]
  unfold handle route
  cases Sequence.contains Request.headEnd buffer with
  | false =>
    dsimp only
    rcases deliver (.ofError 400) s with ⟨_ | _, _⟩ <;> rfl
  | true =>
    rw [Bool.not_true, if_neg Bool.false_ne_true]
    dsimp only [Option.map_some]
    cases mentions name buffer with
    | error e => rfl
    | ok mentioned =>
      cases mentioned with
      | false =>
        dsimp only
        rcases serve buffer t a s with ⟨_ | _, _, _, _⟩ <;> rfl
      | true =>
        dsimp only [takeOver]
        rcases act buffer (s.record (.handshake buffer)) with ⟨_ | _, _⟩ <;> rfl

theorem contains_head (hhead : IsCut Request.headEnd head line []) (rest : Bytes) :
    Sequence.contains Request.headEnd (head ++ rest) = true := by
  rw [Sequence.contains_iff_infix, (hhead.append rest).whole]
  exact ⟨line, [] ++ rest, by simp⟩

/-- What follows the head of a request does not matter without a handshake. -/
theorem handle_none_append {α : Type} (hhead : IsCut Request.headEnd head line []) (rest : Bytes)
    (t : Table) (a : RootAlias) (s : Socket) :
    handle (head ++ rest) t a (none : Option (Text × Handshake α)) s =
      handle head t a (none : Option (Text × Handshake α)) s := by
  have hown : Sequence.contains Request.headEnd head = true := by
    simpa using contains_head hhead []
  rw [handle_none, handle_none, contains_head hhead, hown, serve_append hhead]

/-- A buffer with a head is turned over to the handshake, or its head is served. -/
theorem handle_append {α : Type} (hhead : IsCut Request.headEnd head line []) (rest : Bytes)
    (act : Handshake α) (t : Table) (a : RootAlias) (s : Socket) :
    handle (head ++ rest) t a (some (name, act)) s =
      match mentions name (head ++ rest) with
      | .error e => ⟨.error e, a, [], s⟩
      | .ok true => takeOver act (head ++ rest) a s
      | .ok false => handle head t a (none : Option (Text × Handshake α)) s := by
  rw [handle_some, route, contains_head hhead, handle_none_append hhead]
  rcases mentions name (head ++ rest) with e | _ | _ <;> rfl

/-- Two buffers with one head go the same way, if the head mentions the header's name, or if both
buffers do or neither does: both are turned over to the handshake, or both are answered as the
head alone is without a handshake, or the name has no form in bytes and both fail. -/
theorem handle_same_branch {α : Type} (hhead : IsCut Request.headEnd head line []) (name : Text)
    (act : Handshake α) (t : Table) (a : RootAlias) (s : Socket) {x y : Bytes}
    (hagree : IsMentioned name head ∨
      (IsMentioned name (head ++ x) ↔ IsMentioned name (head ++ y))) :
    (IsMentioned name (head ++ x) ∧
      handle (head ++ x) t a (some (name, act)) s = takeOver act (head ++ x) a s ∧
      handle (head ++ y) t a (some (name, act)) s = takeOver act (head ++ y) a s) ∨
    (¬ IsMentioned name (head ++ x) ∧
      handle (head ++ x) t a (some (name, act)) s =
        handle (head ++ y) t a (some (name, act)) s ∧
      (handle (head ++ x) t a (some (name, act)) s =
          handle head t a (none : Option (Text × Handshake α)) s ∨
        ∃ e, Utf8.encodeOrFail (Text.lower name) = .error e ∧
          handle (head ++ x) t a (some (name, act)) s = ⟨.error e, a, [], s⟩)) := by
  have hiff : IsMentioned name (head ++ x) ↔ IsMentioned name (head ++ y) := by
    rcases hagree with hown | hagree
    · exact iff_of_true (hown.append x) (hown.append y)
    · exact hagree
  rw [handle_append hhead x, handle_append hhead y]
  rcases mentions_cases name with ⟨e, hkey, herror⟩ | hmentions
  · obtain ⟨hx, hnone⟩ := herror (head ++ x)
    rw [hx, (herror (head ++ y)).1]
    exact .inr ⟨hnone, rfl, .inr ⟨e, hkey, rfl⟩⟩
  · rcases hmentions (head ++ x) with ⟨hx, hown⟩ | ⟨hx, hnone⟩
    · rcases hmentions (head ++ y) with ⟨hy, _⟩ | ⟨_, hother⟩
      · rw [hx, hy]
        exact .inl ⟨hown, rfl, rfl⟩
      · exact absurd (hiff.1 hown) hother
    · rcases hmentions (head ++ y) with ⟨_, hother⟩ | ⟨hy, _⟩
      · exact absurd (hiff.2 hother) hnone
      · rw [hx, hy]
        exact .inr ⟨hnone, rfl, .inl rfl⟩

/-- A head that mentions the header in capitals, with and without a body behind it. -/
theorem handle_same_branch_key :
    let head := ("GET /chat HTTP/1.1\r\nSEC-WEBSOCKET-KEY: x\r\n\r\n" : Text).flatMap
      Utf8.encodePoint
    let act : Handshake Unit := fun _ s => (.ok (), s)
    let s := Socket.ofIncoming []
    IsMentioned upgradeHeader head ∧
      handle (head ++ [1, 2]) .empty .initial (some (upgradeHeader, act)) s =
        takeOver act (head ++ [1, 2]) .initial s ∧
      handle (head ++ []) .empty .initial (some (upgradeHeader, act)) s =
        takeOver act (head ++ []) .initial s := by
  intro head act s
  have hhead : IsCut Request.headEnd head
      (("GET /chat HTTP/1.1\r\nSEC-WEBSOCKET-KEY: x" : Text).flatMap Utf8.encodePoint) [] :=
    (cutAt?_eq_some_iff (by decide)).1 (by decide +kernel)
  have hmention : IsMentioned upgradeHeader head :=
    ⟨("sec-websocket-key" : Text).flatMap Utf8.encodePoint, rfl,
      Sequence.contains_iff_infix.1 (by decide +kernel)⟩
  rcases handle_same_branch hhead upgradeHeader act .empty .initial s (x := [1, 2]) (y := [])
      (.inl hmention) with ⟨_, hboth⟩ | ⟨hnone, _⟩
  · exact ⟨hmention, hboth⟩
  · exact absurd (hmention.append [1, 2]) hnone

/-- A request that the handshake takes over because of its body. -/
theorem handle_mention_in_body :
    let head := ("POST /chat HTTP/1.1\r\n\r\n" : Text).flatMap Utf8.encodePoint
    let body := ("Sec-WebSocket-Key" : Text).flatMap Utf8.encodePoint
    let act : Handshake Bytes := fun buffer s => (.ok buffer, s)
    let s := Socket.ofIncoming []
    IsCut Request.headEnd head (("POST /chat HTTP/1.1" : Text).flatMap Utf8.encodePoint) [] ∧
      (handle (head ++ body) .empty .initial (some (upgradeHeader, act)) s).outcome.toOption =
        some (some (head ++ body)) ∧
      (handle (head ++ body) .empty .initial (some (upgradeHeader, act)) s).socket.sent = [] ∧
      (handle (head ++ []) .empty .initial (some (upgradeHeader, act)) s).outcome.toOption =
        some none ∧
      (handle (head ++ []) .empty .initial (some (upgradeHeader, act)) s).socket.sent ≠ [] := by
  intro head body act s
  refine ⟨(cutAt?_eq_some_iff (by decide)).1 (by decide +kernel), ?_⟩
  decide +kernel

end Exchange
end AssetBundle
