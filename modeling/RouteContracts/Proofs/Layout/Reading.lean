import Mathlib.Data.List.Basic
import RouteContracts.Layout

/-! # Reading layouts
Where lines end depends on all that follows, but a layout writes nothing besides its words except blanks,
line ends and commas at its gaps. That is enough to read two layouts of one text side by side: word by word
they either agree or the text tells them apart.

* `Lays`: the texts that pieces can be laid out as, wherever lines end.
* `lays_render`: **what is rendered is such a text.**
* `Aligned`: two lists of pieces that can be laid out as one text, up to fillers in front. Its lemmas take
  equal pieces off, and tell what the first words have in common. -/

namespace RouteContracts.Layout

/-! ## The texts of pieces -/

/-- Whether a piece is a `.word`. -/
def Piece.isWord : Piece → Bool
  | .word _ => true
  | _ => false

/-- A character that gaps can add to a text: a blank, the end of a line or a comma. -/
def isFiller (c : Char) : Bool := c == ' ' || c == '\n' || c == ','

/-- **The texts that pieces can be laid out as**: the words in order, with `isFiller` characters at the gaps. -/
inductive Lays : List Piece → List Char → Prop where
  | nil : Lays [] []
  | word (s : String) {ps : List Piece} {t : List Char} (h : Lays ps t) :
      Lays (.word s :: ps) (s.toList ++ t)
  | gap (g : Gap) {ps : List Piece} {filler t : List Char} (hfiller : filler.all isFiller = true)
      (h : Lays ps t) : Lays (.gap g :: ps) (filler ++ t)
  | start (breaking : Breaking) (offset : Int) {ps : List Piece} {t : List Char} (h : Lays ps t) :
      Lays (.start breaking offset :: ps) t
  | stop {ps : List Piece} {t : List Char} (h : Lays ps t) : Lays (.stop :: ps) t

namespace Cursor

/-- The text that the cursor has written. -/
def text (c : Cursor) : List Char := c.written.reverse.flatMap String.toList

theorem text_write (c : Cursor) (s : String) :
    (c.write s).text = c.text ++ List.replicate c.pending ' ' ++ s.toList := by
  simp [text, write, blanksText, String.toList_ofList]

theorem text_leave (c : Cursor) : c.leave.text = c.text ∧ c.leave.pending = c.pending := by
  unfold leave
  split <;> exact ⟨rfl, rfl⟩

theorem text_enter (c : Cursor) (breaking : Breaking) (offset : Int) (rest : List Piece) :
    (c.enter breaking offset rest).text = c.text ∧
      (c.enter breaking offset rest).pending = c.pending := by
  unfold enter
  split <;> exact ⟨rfl, rfl⟩

/-- `c.endLine g` adds only `isFiller` characters to `c.text`. -/
theorem text_endLine (c : Cursor) (g : Gap) :
    ∃ filler, filler.all isFiller = true ∧ (c.endLine g).text = c.text ++ filler := by
  unfold endLine
  cases g.comma with
  | false => exact ⟨['\n'], by decide, by simp [text]⟩
  | true =>
    refine ⟨List.replicate c.pending ' ' ++ [',', '\n'], ?_, ?_⟩
    · simp [isFiller]
    · have h := text_write c ","
      simp only [text] at h ⊢
      simp [h]

/-- **`c.run ps` writes a text `t` with `Lays ps t`.** The pending blanks of `c` come first, if there are any. -/
theorem lays_run (ps : List Piece) (c : Cursor) : ∃ blanks t, (c.pending = 0 → blanks = []) ∧
    blanks.all isFiller = true ∧ Lays ps t ∧ (c.run ps).text = c.text ++ blanks ++ t := by
  induction ps generalizing c with
  | nil => exact ⟨[], [], fun _ => rfl, rfl, .nil, by simp [run]⟩
  | cons p rest ih =>
    cases p with
    | word s =>
      -- the pending blanks are written now, so none come in front of the rest
      obtain ⟨blanks, t, hnone, -, ht, heq⟩ := ih (c.word s)
      obtain rfl := hnone rfl
      refine ⟨List.replicate c.pending ' ', s.toList ++ t, fun h => by rw [h]; rfl, by simp [isFiller],
        .word s ht, ?_⟩
      have hword : (c.word s).text = (c.write s).text := rfl
      rw [run, heq, hword, text_write]
      simp
    | gap g =>
      obtain ⟨blanks, t, -, hblanks, ht, heq⟩ := ih (c.gap g rest)
      by_cases hcontinues : c.continues g rest = true
      · refine ⟨[], blanks ++ t, fun _ => rfl, rfl, .gap g hblanks ht, ?_⟩
        have hgap : (c.gap g rest).text = c.text := by simp [gap, hcontinues, text]
        rw [run, heq, hgap]
        simp
      · obtain ⟨filler, hfiller, hend⟩ := text_endLine c g
        refine ⟨[], (filler ++ blanks) ++ t, fun _ => rfl, rfl, .gap g ?_ ht, ?_⟩
        · rw [List.all_append, hfiller, hblanks]; rfl
        · have hgap : c.gap g rest = c.endLine g := by simp [gap, hcontinues]
          rw [run, heq, hgap, hend]
          simp
    | start breaking offset =>
      obtain ⟨htext, hpending⟩ := text_enter c breaking offset rest
      obtain ⟨blanks, t, hnone, hblanks, ht, heq⟩ := ih (c.enter breaking offset rest)
      exact ⟨blanks, t, fun h => hnone (hpending ▸ h), hblanks, .start breaking offset ht,
        by rw [run, heq, htext]⟩
    | stop =>
      obtain ⟨htext, hpending⟩ := text_leave c
      obtain ⟨blanks, t, hnone, hblanks, ht, heq⟩ := ih c.leave
      exact ⟨blanks, t, fun h => hnone (hpending ▸ h), hblanks, .stop ht, by rw [run, heq, htext]⟩

end Cursor

/-- **`Lays ps (render ps).toList`.** -/
theorem lays_render (ps : List Piece) : Lays ps (render ps).toList := by
  obtain ⟨blanks, t, hnone, -, ht, heq⟩ := Cursor.initial.lays_run ps
  obtain rfl := hnone rfl
  rw [render, String.toList_join]
  rw [Cursor.text] at heq
  rw [heq]
  exact ht

/-! ## Two layouts of one text -/

/-- `t` without the `isFiller` characters in front. -/
def strip (t : List Char) : List Char := t.dropWhile isFiller

theorem strip_append {filler : List Char} (h : filler.all isFiller = true) (t : List Char) :
    strip (filler ++ t) = strip t := by
  induction filler with
  | nil => rfl
  | cons c rest ih =>
    rw [List.all_cons, Bool.and_eq_true] at h
    rw [List.cons_append, strip, List.dropWhile_cons_of_pos h.1]
    exact ih h.2

theorem strip_append_eq {s t u : List Char} (h : strip (s ++ t) = strip (s ++ u)) : strip t = strip u := by
  induction s with
  | nil => exact h
  | cons c rest ih =>
    by_cases hc : isFiller c = true
    · rw [List.cons_append, List.cons_append, strip, strip, List.dropWhile_cons_of_pos hc,
        List.dropWhile_cons_of_pos hc] at h
      exact ih h
    · rw [List.cons_append, List.cons_append, strip, strip, List.dropWhile_cons_of_neg hc,
        List.dropWhile_cons_of_neg hc, List.cons.injEq] at h
      rw [List.append_cancel_left h.2]

/-- A word that does not begin with a filler. -/
def IsBare (s : String) : Prop := ∃ c w, s.toList = c :: w ∧ isFiller c = false

theorem IsBare.append {s : String} (hs : IsBare s) (s' : String) : IsBare (s ++ s') := by
  obtain ⟨c, w, hw, hc⟩ := hs
  exact ⟨c, w ++ s'.toList, by rw [String.toList_append, hw, List.cons_append], hc⟩

theorem IsBare.strip_append {s : String} (hs : IsBare s) (t : List Char) :
    strip (s.toList ++ t) = s.toList ++ t := by
  obtain ⟨c, w, hw, hc⟩ := hs
  rw [hw, List.cons_append, strip, List.dropWhile_cons_of_neg (by rw [hc]; decide)]

/-- **Two lists of pieces that can be laid out as one text**, up to fillers in front. -/
def Aligned (ps qs : List Piece) : Prop := ∃ t u, strip t = strip u ∧ Lays ps t ∧ Lays qs u

/-- `Aligned ps qs` where `render ps = render qs`. -/
theorem aligned_of_render {ps qs : List Piece} (h : render ps = render qs) : Aligned ps qs :=
  ⟨_, _, by rw [h], lays_render ps, lays_render qs⟩

namespace Aligned

variable {ps qs : List Piece}

theorem symm (h : Aligned ps qs) : Aligned qs ps := by
  obtain ⟨t, u, heq, ht, hu⟩ := h
  exact ⟨u, t, heq.symm, hu, ht⟩


/-- A piece that is no word can be taken off on one side of `Aligned`. -/
theorem drop_left {p : Piece} (hp : p.isWord = false) (h : Aligned (p :: ps) qs) : Aligned ps qs := by
  obtain ⟨t, u, heq, ht, hu⟩ := h
  cases ht with
  | word s => exact nomatch hp
  | gap g hfiller ht => exact ⟨_, u, by rw [← heq, strip_append hfiller], ht, hu⟩
  | start breaking offset ht => exact ⟨t, u, heq, ht, hu⟩
  | stop ht => exact ⟨t, u, heq, ht, hu⟩

/-- A comma can be taken off on one side of `Aligned`. -/
theorem comma_left (h : Aligned (.word "," :: ps) qs) : Aligned ps qs := by
  obtain ⟨t, u, heq, ht, hu⟩ := h
  cases ht with
  | word s ht => exact ⟨_, u, by rw [← heq, strip_append (by decide)], ht, hu⟩

/-- A piece that stands in front on both sides of `Aligned` can be taken off. -/
theorem drop {p : Piece} (h : Aligned (p :: ps) (p :: qs)) : Aligned ps qs := by
  cases p with
  | word s =>
    obtain ⟨t, u, heq, ht, hu⟩ := h
    cases ht with
    | word s ht =>
      cases hu with
      | word s hu => exact ⟨_, _, strip_append_eq heq, ht, hu⟩
  | gap | start | stop =>
    exact ((h.drop_left rfl).symm.drop_left rfl).symm

/-- Pieces that stand in front on both sides of `Aligned` can be taken off. -/
theorem drop_append (xs : List Piece) (h : Aligned (xs ++ ps) (xs ++ qs)) : Aligned ps qs := by
  induction xs with
  | nil => exact h
  | cons x rest ih => exact ih h.drop

/-- `IsBare` words in front of two `Aligned` lists begin one text. -/
theorem texts {s s' : String} (hs : IsBare s) (hs' : IsBare s')
    (h : Aligned (.word s :: ps) (.word s' :: qs)) :
    ∃ t u, s.toList ++ t = s'.toList ++ u ∧ Lays ps t ∧ Lays qs u := by
  obtain ⟨t, u, heq, ht, hu⟩ := h
  cases ht with
  | word s ht =>
    cases hu with
    | word s' hu =>
      rw [hs.strip_append, hs'.strip_append] at heq
      exact ⟨_, _, heq, ht, hu⟩

/-- `IsBare` words in front of two `Aligned` lists begin with one character. -/
theorem head {s s' : String} (hs : IsBare s) (hs' : IsBare s')
    (h : Aligned (.word s :: ps) (.word s' :: qs)) : s.toList.head? = s'.toList.head? := by
  obtain ⟨t, u, heq, -, -⟩ := h.texts hs hs'
  obtain ⟨c, w, hw, -⟩ := hs
  obtain ⟨c', w', hw', -⟩ := hs'
  rw [hw, hw'] at heq ⊢
  exact congrArg some (List.cons.inj heq).1

end Aligned

/-- `xs` is left of `zs` when fillers in front are taken off. -/
def LeadsTo (zs xs : List Piece) : Prop := ∀ ws, Aligned zs ws → Aligned xs ws

namespace LeadsTo

variable {zs zs' xs xs' : List Piece}

theorem refl (xs : List Piece) : LeadsTo xs xs := fun _ h => h

/-- `LeadsTo (.gap g :: xs) xs`. -/
theorem gap (g : Gap) (xs : List Piece) : LeadsTo (.gap g :: xs) xs := fun _ h => h.drop_left rfl

/-- `LeadsTo (.word "," :: .gap g :: xs) xs`. -/
theorem comma (g : Gap) (xs : List Piece) : LeadsTo (.word "," :: .gap g :: xs) xs :=
  fun _ h => h.comma_left.drop_left rfl

/-- `Aligned xs xs'` where `zs` and `zs'` are `Aligned` and lead to them. -/
theorem aligned (h : LeadsTo zs xs) (h' : LeadsTo zs' xs') (a : Aligned zs zs') : Aligned xs xs' :=
  (h' _ (h _ a).symm).symm

end LeadsTo

/-! ## Lists of pieces -/

namespace Piece

/-- `commas (e :: rest) ++ xs` is `e` and pieces that lead to `commas rest ++ xs`. -/
theorem exists_commas_cons (e : List Piece) (rest : List (List Piece)) (xs : List Piece) :
    ∃ zs, commas (e :: rest) ++ xs = e ++ zs ∧ LeadsTo zs (commas rest ++ xs) := by
  cases rest with
  | nil => exact ⟨xs, rfl, .refl xs⟩
  | cons e' rest => exact ⟨_, by simp [commas, space]; rfl, .comma _ _⟩

/-- `linesBack (e :: rest) ++ xs` is `e` and pieces that lead to `linesBack rest ++ xs`. -/
theorem exists_linesBack_cons (e : List Piece) (rest : List (List Piece)) (xs : List Piece) :
    ∃ zs, linesBack (e :: rest) ++ xs = e ++ zs ∧ LeadsTo zs (linesBack rest ++ xs) := by
  cases rest with
  | nil => exact ⟨lineBack :: xs, by simp [linesBack], .gap _ _⟩
  | cons e' rest => exact ⟨line :: (linesBack (e' :: rest) ++ xs), by simp [linesBack], .gap _ _⟩

end Piece

/-- Where the first entries of two `linesBack` lists end together, the rest of the lists is `Aligned`. -/
theorem aligned_linesBack_cons {e e' : List Piece} {rest rest' : List (List Piece)} {ps qs : List Piece}
    (hend : ∀ zs zs', Aligned (e ++ zs) (e' ++ zs') → Aligned zs zs')
    (h : Aligned (Piece.linesBack (e :: rest) ++ ps) (Piece.linesBack (e' :: rest') ++ qs)) :
    Aligned (Piece.linesBack rest ++ ps) (Piece.linesBack rest' ++ qs) := by
  obtain ⟨zs, hz, hzs⟩ := Piece.exists_linesBack_cons e rest ps
  obtain ⟨zs', hz', hzs'⟩ := Piece.exists_linesBack_cons e' rest' qs
  rw [hz, hz'] at h
  exact hzs.aligned hzs' (hend zs zs' h)

/-- `s ++ t = s' ++ t'` determines both parts, where `p` holds in the first one and not at the head of the second. -/
theorem eq_of_append_eq {p : Char → Bool} {s s' t t' : List Char} (hs : s.all p = true)
    (hs' : s'.all p = true) (ht : ∀ c ∈ t.head?, p c = false) (ht' : ∀ c ∈ t'.head?, p c = false)
    (h : s ++ t = s' ++ t') : s = s' ∧ t = t' := by
  induction s generalizing s' with
  | nil =>
    cases s' with
    | nil => exact ⟨rfl, h⟩
    | cons c' rest' =>
      -- the shorter run would be followed by a character of the longer one
      have hc := ht c' (by rw [← List.nil_append t, h]; rfl)
      rw [List.all_cons, hc] at hs'
      exact nomatch hs'
  | cons c rest ih =>
    cases s' with
    | nil =>
      have hc := ht' c (by rw [← List.nil_append t', ← h]; rfl)
      rw [List.all_cons, hc] at hs
      exact nomatch hs
    | cons c' rest' =>
      rw [List.all_cons, Bool.and_eq_true] at hs hs'
      rw [List.cons_append, List.cons_append, List.cons.injEq] at h
      obtain ⟨hrest, htail⟩ := ih hs.2 hs'.2 h.2
      exact ⟨by rw [h.1, hrest], htail⟩

end RouteContracts.Layout
