import AssetBundle.Text.Quoted
import AssetBundle.Proofs.Text.Line

/-!
# AssetBundle.Proofs.Text.Quoted

Quoted text is read back as the text it was made of, whatever code points that text has, and it
stands in one line, for all of it is printable.

* `body_hex`: the reader inside an escape by number, with a digit still to come behind the digits
  at hand. This is the invariant that carries the escapes of two, four and eight digits.
* `body_escape`: the reader behind one written code point has read exactly that code point.
* `read_text_append`: reading a quoted text gives the text, and leaves what stands behind it.
* `isPrintable_text`: a quoted text is printable, so no line break and no surrogate stands in it.
-/

namespace AssetBundle

namespace CodePoint

theorem isPrintable_of_visible {c : CodePoint} (hlow : 32 ≤ c.val) (hhigh : c.val < 127) :
    c.isPrintable = true := by
  rw [isPrintable, if_pos hhigh]
  exact decide_eq_true hlow

theorem fitsLine_of_isPrintable {c : CodePoint} (h : c.isPrintable = true) :
    c.fitsLine = true := by
  have hline : c.val ≠ 10 := by
    intro hc
    simp [isPrintable, hc] at h
  have hsur : c.isSurrogate = false := by
    cases hs : c.isSurrogate with
    | false => rfl
    | true =>
      simp only [isSurrogate, Bool.and_eq_true, decide_eq_true_eq] at hs
      have hin : within unprintableRanges c = true := by
        rw [within, List.any_eq_true]
        refine ⟨(55292, 63743), by decide +kernel, ?_⟩
        simp only [Bool.and_eq_true, decide_eq_true_eq]
        omega
      rw [isPrintable, if_neg (by omega), hin] at h
      exact absurd h (by decide)
  simp [fitsLine, hline, hsur]

theorem not_isLineBreak_of_isPrintable {c : CodePoint} (h : c.isPrintable = true) :
    Text.isLineBreak c = false := by
  have hbreaks : ∀ n ∈ Text.lineBreaks, isPrintable (Fin.ofNat 0x110000 n) = false := by
    decide +kernel
  cases hc : Text.isLineBreak c with
  | false => rfl
  | true =>
    have hmem : c.val ∈ Text.lineBreaks := by simpa [Text.isLineBreak] using hc
    have hnone := hbreaks c.val hmem
    rw [show Fin.ofNat 0x110000 c.val = c from Fin.ofNat_val_eq_self c, h] at hnone
    cases hnone

end CodePoint

namespace Text

/-- Whether a text can be shown as it is. -/
def isPrintable (t : Text) : Bool := t.all CodePoint.isPrintable

@[simp] theorem isPrintable_nil : isPrintable [] = true := rfl

@[simp] theorem isPrintable_cons (c : CodePoint) (t : Text) :
    isPrintable (c :: t) = (c.isPrintable && isPrintable t) := rfl

@[simp] theorem isPrintable_append (s t : Text) :
    isPrintable (s ++ t) = (isPrintable s && isPrintable t) := List.all_append

theorem isPrintable_flatMap {α : Type} {l : List α} {f : α → Text}
    (h : ∀ x ∈ l, isPrintable (f x) = true) : isPrintable (l.flatMap f) = true := by
  rw [isPrintable, List.all_flatMap]
  exact List.all_eq_true.2 h

theorem isPrintable_ofNat (n : Nat) : isPrintable (ofNat n) = true := by
  refine List.all_eq_true.2 fun c hc => ?_
  have hdigit := isDecimal_of_mem_ofNat hc
  simp only [CodePoint.isDecimal, Bool.and_eq_true, decide_eq_true_eq] at hdigit
  exact CodePoint.isPrintable_of_visible (by omega) (by omega)

theorem isLine_of_isPrintable {t : Text} (h : isPrintable t = true) : isLine t = true :=
  List.all_eq_true.2 fun c hc => CodePoint.fitsLine_of_isPrintable (List.all_eq_true.1 h c hc)

theorem not_isLineBreak_of_isPrintable {t : Text} (h : isPrintable t = true) :
    ∀ c ∈ t, isLineBreak c = false := fun c hc =>
  CodePoint.not_isLineBreak_of_isPrintable (List.all_eq_true.1 h c hc)

end Text

namespace Quoted

/-- The spelling in which texts are written: between single quotes of one kind, with escapes. -/
def Style.written (quote : CodePoint) : Style := ⟨quote, false, false⟩

section Reader

variable {quote : CodePoint} (done rest : Text)

theorem body_plain {c : CodePoint} (hq : c ≠ quote) (hb : c ≠ backslash) (hl : c.val ≠ 10) :
    body (.written quote) done .plain (c :: rest) =
      body (.written quote) (c :: done) .plain rest := by
  simp [body, plainStep, Style.written, hq, hb, hl]

theorem body_close : body (.written quote) done .plain (quote :: rest) =
    some (done.reverse, rest) := by
  simp [body, plainStep, Style.written]

/-- A backslash and the step behind it. -/
theorem body_backslash (h : isQuote quote = true) (c : CodePoint) :
    body (.written quote) done .plain (backslash :: c :: rest) =
      body (.written quote) (escapedStep (.written quote) done c).1
        (escapedStep (.written quote) done c).2 rest := by
  have hq : ¬ backslash = quote := by
    rintro rfl
    exact absurd h (by decide)
  have hstep : plainStep (.written quote) done backslash = some (done, .escaped) := by
    simp [plainStep, Style.written, hq]
  rw [body]
  simp only [hstep]
  rw [body]

theorem hexValue?_hexDigit (n : Nat) : hexValue? (hexDigit n) = some (n % 16) := by
  have hdigits : ∀ k : Fin 16,
      hexValue? (CodePoint.ofChar (Nat.digitChar k.val)) = some k.val := by decide
  exact hdigits ⟨n % 16, Nat.mod_lt _ (by decide)⟩

theorem body_hexDigit (style : Style) {missing : Nat} (h : 1 ≤ missing) (value n : Nat) :
    body style done (.numbered (missing + 1) value) (hexDigit n :: rest) =
      body style done (.numbered missing (value * 16 + n % 16)) rest := by
  rw [body, hexValue?_hexDigit]
  simp only []
  rw [if_neg (by omega), Nat.add_sub_cancel]

theorem body_hexDigit_last (style : Style) {value n : Nat} (h : value * 16 + n % 16 < 0x110000) :
    body style done (.numbered 1 value) (hexDigit n :: rest) =
      body style (⟨value * 16 + n % 16, h⟩ :: done) .plain rest := by
  rw [body, hexValue?_hexDigit]
  simp [h]

/-- How many numbers can be written in so many hexadecimal digits. -/
def hexRoom : Nat → Nat
  | 0 => 1
  | width + 1 => 16 * hexRoom width

/-- Digits are taken in one after another as long as one more is to come behind them. -/
theorem body_hex (style : Style) (width : Nat) :
    ∀ (missing value n : Nat) (rest : Text), 1 ≤ missing →
      body style done (.numbered (width + missing) value) (hex width n ++ rest) =
        body style done (.numbered missing (value * hexRoom width + n % hexRoom width)) rest := by
  induction width with
  | zero =>
    intro missing value n rest _
    simp [hex, hexRoom, Nat.mod_one]
  | succ width ih =>
    intro missing value n rest hmissing
    have hdigits : value * hexRoom (width + 1) + n % hexRoom (width + 1) =
        (value * hexRoom width + n / 16 % hexRoom width) * 16 + n % 16 := by
      rw [hexRoom, Nat.mod_mul, Nat.add_mul, Nat.mul_left_comm, Nat.mul_comm 16 (value * _),
        Nat.mul_comm 16 (n / 16 % hexRoom width)]
      omega
    rw [hex, List.append_assoc, List.singleton_append,
      show width + 1 + missing = width + (missing + 1) by omega,
      ih (missing + 1) value (n / 16) _ (by omega), body_hexDigit done rest style hmissing,
      hdigits]

/-- An escape by number stands for the code point of that number. -/
theorem body_numbered (style : Style) (width : Nat) (c : CodePoint) (hwidth : 1 ≤ width)
    (h : c.val < hexRoom width) :
    body style done (.numbered width 0) (hex width c.val ++ rest) =
      body style (c :: done) .plain rest := by
  obtain ⟨width, rfl⟩ : ∃ w, width = w + 1 := ⟨width - 1, by omega⟩
  have hhigh : c.val / 16 % hexRoom width = c.val / 16 := by
    apply Nat.mod_eq_of_lt
    rw [Nat.div_lt_iff_lt_mul (by decide), Nat.mul_comm]
    rwa [hexRoom] at h
  have hvalue : c.val / 16 * 16 + c.val % 16 = c.val := by omega
  rw [hex, List.append_assoc, List.singleton_append, body_hex done style width 1 0 _ _ (by decide),
    Nat.zero_mul, Nat.zero_add, hhigh,
    body_hexDigit_last done rest style (by rw [hvalue]; exact c.isLt)]
  congr 2
  exact Fin.ext hvalue

/-- Behind one written code point, exactly that code point has been read. -/
theorem body_escape (h : isQuote quote = true) (c : CodePoint) :
    body (.written quote) done .plain (escape quote c ++ rest) =
      body (.written quote) (c :: done) .plain rest := by
  have hletter : ∀ {l : Char} {point : CodePoint},
      (letterEscapes.find? fun entry => CodePoint.ofChar entry.1 = CodePoint.ofChar l) =
        some (l, point) →
      body (.written quote) done .plain (backslash :: CodePoint.ofChar l :: rest) =
        body (.written quote) (point :: done) .plain rest := by
    intro l point hfind
    rw [body_backslash done rest h]
    simp [escapedStep, Style.written, hfind]
  have hval : ∀ {d : CodePoint}, c.val = d.val → c = d := Fin.ext
  rw [escape]
  split
  · next hmark =>
    have hc : c = apostrophe ∨ c = doubleQuote ∨ c = backslash := by
      simp only [isQuote, Bool.or_eq_true, decide_eq_true_eq] at h
      rcases hmark with rfl | rfl
      · exact h.imp_right Or.inl
      · exact Or.inr (Or.inr rfl)
    rcases hc with rfl | rfl | rfl
    · exact hletter (l := '\'') (by decide)
    · exact hletter (l := '"') (by decide)
    · exact hletter (l := '\\') (by decide)
  · next hmark =>
    obtain ⟨hquote, hback⟩ := not_or.1 hmark
    split
    · next ht => rw [hval (d := 9) ht]; exact hletter (by decide)
    · split
      · next hn => rw [hval (d := 10) hn]; exact hletter (by decide)
      · next hline =>
        split
        · next hr => rw [hval (d := 13) hr]; exact hletter (by decide)
        · split
          · exact body_plain done rest hquote hback hline
          · rw [numbered]
            split
            · next hx =>
              rw [List.cons_append, List.cons_append, body_backslash done _ h]
              exact body_numbered done rest _ 2 c (by decide) hx
            · split
              · next hu =>
                rw [List.cons_append, List.cons_append, body_backslash done _ h]
                exact body_numbered done rest _ 4 c (by decide) hu
              · rw [List.cons_append, List.cons_append, body_backslash done _ h]
                exact body_numbered done rest _ 8 c (by decide)
                  (Nat.lt_trans c.isLt (by decide))

theorem body_written (h : isQuote quote = true) :
    ∀ (t done : Text),
      body (.written quote) done .plain (t.flatMap (escape quote) ++ quote :: rest) =
        some (done.reverse ++ t, rest) := by
  intro t
  induction t with
  | nil =>
    intro done
    rw [List.flatMap_nil, List.nil_append, body_close, List.append_nil]
  | cons c t ih =>
    intro done
    rw [List.flatMap_cons, List.append_assoc, body_escape done _ h, ih (c :: done),
      List.reverse_cons, List.append_assoc, List.singleton_append]

end Reader

theorem isQuote_quoteFor (t : Text) : isQuote (quoteFor t) = true := by
  rw [quoteFor]
  split <;> decide

/-- No code point is written with the bare quote in front. -/
theorem escape_head {quote : CodePoint} (h : isQuote quote = true) (c : CodePoint) :
    ∃ first tail, escape quote c = first :: tail ∧ first ≠ quote := by
  have hb : backslash ≠ quote := by
    rintro rfl
    exact absurd h (by decide)
  rw [escape]
  split
  · exact ⟨_, _, rfl, hb⟩
  · next hmark =>
    split
    · exact ⟨_, _, rfl, hb⟩
    · split
      · exact ⟨_, _, rfl, hb⟩
      · split
        · exact ⟨_, _, rfl, hb⟩
        · split
          · exact ⟨_, _, rfl, (not_or.1 hmark).1⟩
          · rw [numbered]
            split
            · exact ⟨_, _, rfl, hb⟩
            · split <;> exact ⟨_, _, rfl, hb⟩

/-- A quote opens a text of the plain kind unless two more of it follow. -/
theorem opening?_written {quote second third : CodePoint} (h : isQuote quote = true)
    (hne : ¬ (second = quote ∧ third = quote)) (rest : Text) :
    opening? false (quote :: second :: third :: rest) =
      some (.written quote, second :: third :: rest) := by
  rw [opening?, h, if_neg (by decide), if_neg hne]
  rfl

theorem read_quote {quote : CodePoint} (h : isQuote quote = true) (t : Text) :
    read (quote :: t) =
      (opening? false (quote :: t)).bind fun found => body found.1 [] .plain found.2 := by
  have hraw : ¬ (quote = CodePoint.ofChar 'r' ∨ quote = CodePoint.ofChar 'R') ∧
      ¬ (quote = CodePoint.ofChar 'u' ∨ quote = CodePoint.ofChar 'U') := by
    simp only [isQuote, Bool.or_eq_true, decide_eq_true_eq] at h
    rcases h with rfl | rfl <;> decide
  rw [read]
  simp only [if_neg hraw.1, if_neg hraw.2]
  cases opening? false (quote :: t) <;> rfl

/-- Reading a quoted text gives the text, and leaves what stands behind it. An empty text must not
have one more quote behind it. -/
theorem read_text_append (t rest : Text) (hrest : rest.head? ≠ some (quoteFor t)) :
    read (text t ++ rest) = some (t, rest) := by
  have hquote := isQuote_quoteFor t
  have hcons : text t ++ rest =
      quoteFor t :: (t.flatMap (escape (quoteFor t)) ++ quoteFor t :: rest) := by
    rw [text, List.cons_append, List.append_assoc, List.singleton_append]
  have hopen : opening? false (text t ++ rest) =
      some (.written (quoteFor t), t.flatMap (escape (quoteFor t)) ++ quoteFor t :: rest) := by
    rw [hcons]
    cases t with
    | nil =>
      cases rest with
      | nil => rfl
      | cons c rest =>
        refine opening?_written hquote (fun h => hrest ?_) rest
        rw [List.head?_cons, h.2]
    | cons c t =>
      obtain ⟨first, tail, hfirst, hne⟩ := escape_head hquote c
      rw [List.flatMap_cons, hfirst, List.append_assoc, List.cons_append]
      cases hbehind : tail ++ (t.flatMap (escape (quoteFor (c :: t))) ++
          quoteFor (c :: t) :: rest) with
      | nil => simp at hbehind
      | cons second behind => exact opening?_written hquote (fun h => hne h.1) behind
  rw [hcons, read_quote hquote, ← hcons, hopen, Option.bind_some, body_written rest hquote t []]
  rfl

/-- Reading a quoted text gives the text, and nothing is left. -/
theorem read_text (t : Text) : read (text t) = some (t, []) := by
  have h := read_text_append t [] (by simp)
  rwa [List.append_nil] at h

theorem isPrintable_hex (width n : Nat) : Text.isPrintable (hex width n) = true := by
  have hdigits : ∀ k : Fin 16, (CodePoint.ofChar (Nat.digitChar k.val)).isPrintable = true := by
    decide
  induction width generalizing n with
  | zero => rfl
  | succ width ih =>
    rw [hex, Text.isPrintable_append, ih, Bool.true_and, Text.isPrintable_cons,
      Text.isPrintable_nil, Bool.and_true]
    exact hdigits ⟨n % 16, Nat.mod_lt _ (by decide)⟩

theorem isPrintable_numbered (c : CodePoint) : Text.isPrintable (numbered c) = true := by
  have hback : backslash.isPrintable = true := by decide
  rw [numbered]
  split
  · simp [hback, isPrintable_hex]; decide
  · split
    · simp [hback, isPrintable_hex]; decide
    · simp [hback, isPrintable_hex]; decide

theorem isPrintable_of_isQuote {quote : CodePoint} (h : isQuote quote = true) :
    quote.isPrintable = true := by
  simp only [isQuote, Bool.or_eq_true, decide_eq_true_eq] at h
  rcases h with rfl | rfl <;> decide

theorem isPrintable_escape {quote : CodePoint} (h : isQuote quote = true) (c : CodePoint) :
    Text.isPrintable (escape quote c) = true := by
  have hback : backslash.isPrintable = true := by decide
  rw [escape]
  split
  · next hmark =>
    have hc : c.isPrintable = true := by
      rcases hmark with rfl | rfl
      · exact isPrintable_of_isQuote h
      · exact hback
    simp [hback, hc]
  · split
    · decide
    · split
      · decide
      · split
        · decide
        · split
          · next hp => simp [hp]
          · exact isPrintable_numbered c

/-- A quoted text is printable, whatever the text was. -/
theorem isPrintable_text (t : Text) : Text.isPrintable (text t) = true := by
  have hquote := isQuote_quoteFor t
  have hbody : Text.isPrintable (t.flatMap (escape (quoteFor t))) = true :=
    Text.isPrintable_flatMap fun c _ => isPrintable_escape hquote c
  simp [text, isPrintable_of_isQuote hquote, hbody]

end Quoted
end AssetBundle
