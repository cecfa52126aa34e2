import AssetBundle.Command.Line
import AssetBundle.Proofs.Number.Integer

/-!
# AssetBundle.Proofs.Command.Line

What a command line asks for, once it is read (`isRead_of_ofTexts`): a directory that is a text, a
level that is an integer, a path start that is a text, and a maximum age that can be written, if
any. The directory is a text because two dashes are an operand only behind the separator
(`Word.AreLaid`), so no place in front of it comes out empty-handed; the maximum age can be
written because it was read.
-/

namespace AssetBundle
namespace Word

theorem plain_cases (t : Text) : plain t = .operand t ∨ (plain t).isFlag = true := by
  unfold plain
  split
  · exact .inl rfl
  · exact .inr rfl

theorem isFlag_spelled (f : Flag) (spelling : Text) (value : Option Text) :
    (spelled f spelling value).isFlag = true := by
  unfold spelled
  split <;> rfl

theorem resolve_cases {t : Text} {w : Word} (h : resolve t = .ok w) :
    w = .operand t ∨ w.isFlag = true := by
  unfold resolve at h
  split at h
  · dsimp only at h
    split at h
    · cases h
      exact plain_cases t
    · cases h
      exact .inr rfl
    · cases h
  · split at h
    · split at h
      · cases h
        exact .inr rfl
      · cases h
        exact plain_cases _
    · cases h
      exact .inl rfl

theorem classify_cases {t : Text} {w : Word} (h : classify t = .ok w) :
    w = .operand t ∨ w.isFlag = true := by
  unfold classify at h
  split at h
  · cases h
    exact .inl rfl
  · split at h
    · cases h
      exact .inr (isFlag_spelled ..)
    · split at h
      · cases h
        exact .inl rfl
      · split at h
        · exact resolve_cases h
        · split at h
          · cases h
            exact .inr (isFlag_spelled ..)
          · exact resolve_cases h

/-- Whether a word stands in front of the separator: no separator, and no operand of two dashes. -/
def isInFront (w : Word) : Bool := !w.isSeparator && w ≠ .operand twoDashes

/-- Whether two dashes are an operand only behind a separator, where every word is an operand. -/
inductive AreLaid : List Word → Prop where
  | nil : AreLaid []
  | cons {w : Word} {words : List Word} : w.isInFront = true → AreLaid words → AreLaid (w :: words)
  | separator (ts : List Text) : AreLaid (.separator :: ts.map .operand)

theorem areLaid_ofTexts : ∀ {texts : List Text} {words : List Word},
    ofTexts texts = .ok words → AreLaid words := by
  intro texts
  induction texts with
  | nil =>
    intro words h
    cases h
    exact .nil
  | cons t texts ih =>
    intro words h
    rw [ofTexts] at h
    split at h
    · cases h
      exact .separator texts
    next hdashes =>
      split at h
      · cases h
      next w hw =>
        split at h
        · cases h
        next rest hrest =>
          cases h
          refine .cons ?_ (ih hrest)
          rcases classify_cases hw with rfl | hflag
          · simpa [isInFront, isSeparator] using hdashes
          · cases w <;> first | rfl | cases hflag

theorem AreLaid.tail {w : Word} {words : List Word} (h : AreLaid (w :: words))
    (hw : w ≠ .separator) : AreLaid words := by
  cases h with
  | cons _ h => exact h
  | separator ts => exact absurd rfl hw

theorem AreLaid.dropWhile {words : List Word} (h : AreLaid words) :
    AreLaid (words.dropWhile fun w => !w.isFlag) := by
  induction h with
  | nil => exact .nil
  | @cons w words hw hwords ih =>
    rw [List.dropWhile_cons]
    split
    · exact ih
    · exact .cons hw hwords
  | separator ts =>
    have hall : (ts.map operand).dropWhile (fun w => !w.isFlag) = [] :=
      List.dropWhile_eq_nil_iff.2 fun w hw => by
        obtain ⟨t, _, rfl⟩ := List.mem_map.1 hw
        rfl
    rw [List.dropWhile_cons_of_pos (by rfl), hall]
    exact .nil

end Word

/-- Whether a path start can stand in front of a name, and a maximum age can be written. -/
structure BuildOptions.AreSound (o : BuildOptions) : Prop where
  pathStart : ∃ t, o.pathStart = .text t
  maxAge : o.maxAge = .none ∨ ∃ n : Nat, o.maxAge = .int n ∧ Integer.isTooLong n = false

theorem BuildOptions.AreSound.withPathStart {o : BuildOptions} (h : o.AreSound) :
    o.withPathStart.AreSound := by
  unfold BuildOptions.withPathStart
  split
  · exact h
  · exact ⟨⟨_, rfl⟩, h.maxAge⟩

theorem BuildOptions.AreSound.checkAge {o : BuildOptions} (h : o.AreSound) :
    BuildOptions.checkAge o.maxAge = .ok () := by
  rcases h.maxAge with hnone | ⟨n, hn, _⟩
  · rw [hnone]
    rfl
  · have hpositive : ¬ (n : Int) < 0 := by omega
    rw [hn, BuildOptions.checkAge]
    rw [if_neg hpositive]

namespace Line
namespace Progress

variable {p p' : Progress} {words rest : List Word}

/-- Whether the maximum age, if there is one yet, can be written. -/
def AgeFits (p : Progress) : Prop := ∀ n, p.maxAge = some n → Integer.isTooLong n = false

/-- What a flag keeps of a progress. -/
structure Keeps (p p' : Progress) : Prop where
  places : p'.places = p.places
  ageFits : p.AgeFits → p'.AgeFits

theorem Keeps.refl (p : Progress) : p.Keeps p := ⟨rfl, id⟩

theorem Keeps.trans {p'' : Progress} (h : p.Keeps p') (h' : p'.Keeps p'') : p.Keeps p'' :=
  ⟨h'.places.trans h.places, h'.ageFits ∘ h.ageFits⟩

theorem keeps_withValue {f : Flag} {value : Text} (h : p.withValue f value = .ok p') :
    p.Keeps p' := by
  rw [withValue] at h
  split at h
  · next n hread =>
    cases h
    cases f with
    | maxAge =>
      refine ⟨rfl, fun _ m hm => ?_⟩
      cases hm
      exact Integer.isTooLong_of_read hread
    | _ => exact ⟨rfl, id⟩
  · cases h

theorem keeps_act {f : Flag} (h : p.act f = .ok p') : p.Keeps p' := by
  cases f <;> cases h <;> exact ⟨rfl, id⟩

theorem keeps_actAll : ∀ {flags : List Flag} {p : Progress}, p.actAll flags = .ok p' →
    p.Keeps p' := by
  intro flags
  induction flags with
  | nil =>
    intro p h
    cases h
    exact .refl _
  | cons f flags ih =>
    intro p h
    rw [actAll] at h
    split at h
    · cases h
    · next hact => exact (keeps_act hact).trans (ih h)

theorem keeps_attached {f : Flag} {isLetter : Bool} {value : Text}
    (h : p.attached f isLetter value = .ok p') : p.Keeps p' := by
  unfold attached at h
  split at h
  · exact keeps_withValue h
  · split at h
    · cases h
    · split at h
      · cases h
      · exact keeps_actAll h

theorem keeps_alone {f : Flag} (h : p.alone f words = .ok (p', rest)) :
    p.Keeps p' ∧ (Word.AreLaid words → Word.AreLaid rest) := by
  unfold alone at h
  split at h
  · split at h
    · next value behind =>
      cases hvalue : p.withValue f value with
      | error e =>
        rw [hvalue] at h
        cases h
      | ok own =>
        rw [hvalue] at h
        cases h
        exact ⟨keeps_withValue hvalue, fun hlaid => hlaid.tail (by simp)⟩
    · cases h
  · cases hact : p.act f with
    | error e =>
      rw [hact] at h
      cases h
    | ok own =>
      rw [hact] at h
      cases h
      exact ⟨keeps_act hact, id⟩

theorem dashes_of_areLaid (h : Word.AreLaid words) :
    (words.takeWhile Word.isSeparator).filterMap Word.written = [] ∨
      (words.takeWhile Word.isSeparator).filterMap Word.written = [Word.twoDashes] := by
  cases h with
  | nil => exact .inl rfl
  | @cons w words hw hwords =>
    have hplain : w.isSeparator = false := by
      simp only [Word.isInFront, Bool.and_eq_true, Bool.not_eq_true'] at hw
      exact hw.1
    rw [List.takeWhile_cons, hplain]
    exact .inl rfl
  | separator ts =>
    rw [List.takeWhile_cons_of_pos (by rfl)]
    cases ts <;> exact .inr rfl

theorem placed_dashed (t : Text) : placed [Word.twoDashes, t] = .text t := by
  rw [placed, List.erase_cons_head]

theorem placed_of_areLaid (h : Word.AreLaid words) {places : Nat} {group : List Text}
    {more : List (List Text)} (hgroups : groups places words = (group :: more, rest)) :
    ∃ t, placed group = .text t := by
  cases places with
  | zero => cases hgroups
  | succ places =>
    rw [groups] at hgroups
    cases h with
    | nil => cases hgroups
    | @cons w words hw hwords =>
      simp only [Word.isInFront, Bool.and_eq_true, Bool.not_eq_true', decide_eq_true_eq] at hw
      rw [List.takeWhile_cons, List.dropWhile_cons, hw.1] at hgroups
      cases w with
      | operand t =>
        have hne : t ≠ Word.twoDashes := by simpa using hw.2
        cases hgroups
        refine ⟨t, ?_⟩
        rcases dashes_of_areLaid hwords with hback | hback
        · simp [hback, placed, hne]
        · simp [hback, placed, hne]
      | _ => cases hgroups
    | separator ts =>
      rw [List.takeWhile_cons_of_pos (by rfl), List.dropWhile_cons_of_pos (by rfl)] at hgroups
      cases ts with
      | nil => cases hgroups
      | cons t ts =>
        -- The group is the separator and the operand behind it, which may be two dashes itself.
        cases hgroups
        refine ⟨t, ?_⟩
        have hback : (ts.map Word.operand).takeWhile Word.isSeparator = [] := by
          cases ts <;> rfl
        rw [hback]
        exact placed_dashed t

/-- Whether the first place is filled with a text, or no place is filled and the words that are left
are laid out. -/
def IsUnderWay (p : Progress) (words : List Word) : Prop :=
  (∃ t places, p.places = .text t :: places) ∨ (p.places = [] ∧ Word.AreLaid words)

theorem Keeps.isUnderWay (h : p.Keeps p') (hlaid : Word.AreLaid words → Word.AreLaid rest)
    (hp : p.IsUnderWay words) : p'.IsUnderWay rest := by
  rw [IsUnderWay, h.places]
  exact hp.imp id fun hempty => ⟨hempty.1, hlaid hempty.2⟩

/-- Filling places gives the first one a text, or takes no word. -/
theorem fill_cases (hp : p.IsUnderWay words) (h : p.fill words = (p', rest)) :
    p'.maxAge = p.maxAge ∧ ((∃ t places, p'.places = .text t :: places) ∨
      (p'.places = [] ∧ rest = words ∧ Word.AreLaid words)) := by
  unfold fill at h
  rcases hgroups : groups p.freePlaces words with ⟨filled, left⟩
  rw [hgroups] at h
  cases h
  refine ⟨rfl, ?_⟩
  dsimp only
  rcases hp with ⟨t, places, hplaces⟩ | ⟨hplaces, hlaid⟩
  · rw [hplaces]
    exact .inl ⟨t, places ++ filled.map placed, rfl⟩
  · rw [hplaces]
    cases filled with
    | cons group more =>
      obtain ⟨t, ht⟩ := placed_of_areLaid hlaid hgroups
      exact .inl ⟨t, more.map placed, by simp [ht]⟩
    | nil =>
      refine .inr ⟨rfl, ?_, hlaid⟩
      cases hplaces : p.freePlaces with
      | zero =>
        rw [hplaces] at hgroups
        cases hgroups
        rfl
      | succ places =>
        rw [hplaces, groups] at hgroups
        dsimp only at hgroups
        split at hgroups
        · cases hgroups
        · cases hgroups
          rfl

theorem read_ok : ∀ {fuel : Nat} {p : Progress} {words : List Word}, p.IsUnderWay words →
    p.AgeFits → p.read fuel words = .ok p' →
      ((∃ t places, p'.places = .text t :: places) ∨ p'.places = []) ∧ p'.AgeFits := by
  -- On the fuel: a flag keeps the places, and filling places ends the search for the first of them.
  intro fuel
  induction fuel with
  | zero =>
    intro p words hp hage h
    cases h
    exact ⟨hp.imp id And.left, hage⟩
  | succ fuel ih =>
    intro p words hp hage h
    have hflag : ∀ {own : Progress} {left : List Word}, p.Keeps own →
        (Word.AreLaid words → Word.AreLaid left) → own.read fuel left = .ok p' →
          ((∃ t places, p'.places = .text t :: places) ∨ p'.places = []) ∧ p'.AgeFits :=
      fun hkeeps hlaid hread => ih (hkeeps.isUnderWay hlaid hp) (hkeeps.ageFits hage) hread
    unfold read at h
    dsimp only at h
    split at h
    · split at h
      · cases h
      next halone =>
        obtain ⟨hkeeps, hlaid⟩ := keeps_alone halone
        exact hflag hkeeps (fun hwords => hlaid (hwords.tail (by simp))) h
    · split at h
      · cases h
      next halone =>
        obtain ⟨hkeeps, hlaid⟩ := keeps_alone halone
        exact hflag hkeeps (fun hwords => hlaid (hwords.tail (by simp))) h
    · split at h
      · cases h
      next hattached =>
        exact hflag (keeps_attached hattached) (fun hwords => hwords.tail (by simp)) h
    · split at h
      · cases h
      next hattached =>
        exact hflag (keeps_attached hattached) (fun hwords => hwords.tail (by simp)) h
    · next t left =>
      have hkeeps : p.Keeps { p with extras := p.extras ++ [t] } := ⟨rfl, id⟩
      exact hflag hkeeps (fun hwords => hwords.tail (by simp)) h
    · rcases hfill : p.fill words with ⟨own, left⟩
      rw [hfill] at h
      obtain ⟨hmaxAge, hplaces⟩ := fill_cases hp hfill
      have hown : own.AgeFits := fun n hn => hage n (hmaxAge ▸ hn)
      dsimp only at h
      split at h
      · cases h
        exact ⟨hplaces.imp id And.left, hown⟩
      · split at h
        · next hfewer =>
          have hfilled : ∃ t places, own.places = .text t :: places :=
            hplaces.resolve_right fun hidle => by
              rw [hidle.2.1] at hfewer
              exact lt_irrefl _ hfewer
          exact ih (.inl hfilled) hown h
        · have hextra : own.Keeps (own.addExtras (words.takeWhile fun w => !w.isFlag)) := ⟨rfl, id⟩
          refine ih ?_ (hextra.ageFits hown) h
          exact hplaces.imp id fun hidle => ⟨hidle.1, hidle.2.2.dropWhile⟩

end Progress

/-- What a command line that is read asks for. -/
structure IsRead (line : Line) : Prop where
  directory : ∃ t, line.directory = .text t
  level : ∃ n, line.options.level = .int n
  options : line.options.AreSound

theorem isRead_of_ofTexts {texts : List Text} {line : Line} (h : ofTexts texts = .ok line) :
    line.IsRead := by
  rw [ofTexts] at h
  split at h
  · cases h
  next words hwords =>
    split at h
    · cases h
    next p hread =>
      have hstart : Progress.start.IsUnderWay words := .inr ⟨rfl, Word.areLaid_ofTexts hwords⟩
      have hnone : Progress.start.AgeFits := by
        intro n hn
        cases hn
      obtain ⟨hplaces, hage⟩ := Progress.read_ok hstart hnone hread
      unfold ofProgress at h
      dsimp only at h
      split at h
      · next directory output rest hfilled =>
        split at h
        · cases h
        split at h
        · cases h
        next hnegative =>
          cases h
          refine ⟨?_, ⟨p.level, rfl⟩, ?_, ?_⟩
          · rcases hplaces with ⟨t, places, hplaces⟩ | hplaces <;> rw [hfilled] at hplaces <;>
              cases hplaces
            exact ⟨t, rfl⟩
          · dsimp only
            split
            · exact ⟨_, rfl⟩
            · exact ⟨_, rfl⟩
          · cases hmaxAge : p.maxAge with
            | none => exact .inl rfl
            | some n =>
              rw [hmaxAge] at hnegative
              have hpositive : 0 ≤ n := by simpa using hnegative
              refine .inr ⟨n.toNat, ?_, ?_⟩
              · simp [Int.toNat_of_nonneg hpositive]
              · rw [Int.toNat_of_nonneg hpositive]
                exact hage n hmaxAge
      · cases h

end Line
end AssetBundle
