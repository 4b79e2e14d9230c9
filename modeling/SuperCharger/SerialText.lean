-- Text on the serial stream: what reading up to a separator takes from it, the fields
-- between the separators, and the number that a field spells.
import SuperCharger.Arduino
import Mathlib.Data.List.Basic

namespace super_charger.serial_text

open arduino

/-! ## Reading up to a separator -/

theorem readStringUntil_of_not_mem {sep : Char} {cs : List Char} (h : sep ∉ cs) :
    readStringUntil sep cs = (cs, []) := by
  induction cs with
  | nil => rfl
  | cons c cs ih =>
    simp only [List.mem_cons, not_or] at h
    unfold readStringUntil
    rw [if_neg (Ne.symm h.1), ih h.2]

theorem readStringUntil_append_sep {sep : Char} {cs : List Char} (h : sep ∉ cs) (us : List Char) :
    readStringUntil sep (cs ++ sep :: us) = (cs, us) := by
  induction cs with
  | nil => simp [readStringUntil]
  | cons c cs ih =>
    simp only [List.mem_cons, not_or] at h
    rw [List.cons_append]
    unfold readStringUntil
    rw [if_neg (Ne.symm h.1), ih h.2]

/-- With a separator in sight, what follows the text stays in the stream. -/
theorem readStringUntil_append_of_mem {sep : Char} {cs : List Char} (h : sep ∈ cs)
    (us : List Char) :
    readStringUntil sep (cs ++ us) = ((readStringUntil sep cs).1, (readStringUntil sep cs).2 ++ us) := by
  induction cs with
  | nil => cases h
  | cons c cs ih =>
    rw [List.cons_append]
    unfold readStringUntil
    by_cases hc : c = sep
    · rw [if_pos hc, if_pos hc]
    · have hcs : sep ∈ cs := (List.mem_cons.mp h).resolve_left (Ne.symm hc)
      rw [if_neg hc, if_neg hc, ih hcs]

/-! ## Past a number of separators -/

/-- The text past its first `n` separators, or nothing if it has fewer. -/
def after (sep : Char) : Nat → List Char → List Char
  | 0, cs => cs
  | _ + 1, [] => []
  | n + 1, c :: cs => if c = sep then after sep n cs else after sep (n + 1) cs

@[simp] theorem after_zero (sep : Char) (cs : List Char) : after sep 0 cs = cs := by
  unfold after
  rfl

@[simp] theorem after_nil (sep : Char) (n : Nat) : after sep n [] = [] := by
  cases n <;> rfl

/-- A read up to the separator leaves the text past it. -/
theorem after_succ (sep : Char) (n : Nat) (cs : List Char) :
    after sep (n + 1) cs = after sep n (readStringUntil sep cs).2 := by
  induction cs with
  | nil => simp [readStringUntil]
  | cons c cs ih =>
    unfold readStringUntil
    rw [after]
    split
    · rfl
    · exact ih

theorem after_append_of_le {sep : Char} {n : Nat} {cs : List Char} (h : n ≤ cs.count sep)
    (us : List Char) : after sep n (cs ++ us) = after sep n cs ++ us := by
  induction cs generalizing n with
  | nil =>
    rw [List.count_nil] at h
    rw [Nat.le_zero.mp h]
    simp
  | cons c cs ih =>
    cases n with
    | zero => simp
    | succ n =>
      rw [List.count_cons] at h
      rw [List.cons_append, after, after]
      by_cases hc : c = sep
      · rw [if_pos hc, if_pos hc]
        simp only [hc, beq_self_eq_true, if_true] at h
        exact ih (by omega)
      · rw [if_neg hc, if_neg hc]
        simp only [beq_iff_eq, hc, if_false] at h
        exact ih h

theorem after_append_of_lt {sep : Char} {n : Nat} {cs : List Char} (h : cs.count sep < n)
    (us : List Char) : after sep n (cs ++ us) = after sep (n - cs.count sep) us := by
  induction cs generalizing n with
  | nil => simp
  | cons c cs ih =>
    cases n with
    | zero => omega
    | succ n =>
      rw [List.count_cons] at h ⊢
      rw [List.cons_append, after]
      by_cases hc : c = sep
      · simp only [hc, beq_self_eq_true, if_true] at h ⊢
        rw [ih (by omega)]
        congr 1
        omega
      · simp only [beq_iff_eq, hc, if_false] at h ⊢
        exact ih h

theorem after_suffix (sep : Char) (n : Nat) (cs : List Char) : after sep n cs <:+ cs := by
  induction cs generalizing n with
  | nil => simp
  | cons c cs ih =>
    cases n with
    | zero => simp
    | succ n =>
      rw [after]
      split
      · exact (ih n).trans (List.suffix_cons c cs)
      · exact (ih (n + 1)).trans (List.suffix_cons c cs)

theorem count_after {sep : Char} {n : Nat} {cs : List Char} (h : n ≤ cs.count sep) :
    (after sep n cs).count sep = cs.count sep - n := by
  induction cs generalizing n with
  | nil => simp
  | cons c cs ih =>
    cases n with
    | zero => simp
    | succ n =>
      rw [List.count_cons] at h ⊢
      rw [after]
      by_cases hc : c = sep
      · simp only [hc, beq_self_eq_true, if_true] at h ⊢
        rw [ih (by omega)]
        omega
      · simp only [beq_iff_eq, hc, if_false] at h ⊢
        exact ih h

/-! ## Fields -/

/-- A field between two separators, or nothing past the last one. -/
def field (sep : Char) (cs : List Char) (i : Nat) : List Char := (cs.splitOn sep).getD i []

/-- The first field is read, and the others are those of what is left. -/
theorem splitOn_eq (sep : Char) (cs : List Char) :
    cs.splitOn sep = (readStringUntil sep cs).1 ::
      if sep ∈ cs then (readStringUntil sep cs).2.splitOn sep else [] := by
  by_cases h : sep ∈ cs
  · obtain ⟨first, others, rfl, hfirst⟩ := List.eq_append_cons_of_mem h
    rw [if_pos h, readStringUntil_append_sep hfirst, List.splitOn_append_cons_of_beq _ _ (by simp),
      List.splitOn_eq_singleton hfirst]
    rfl
  · rw [if_neg h, readStringUntil_of_not_mem h, List.splitOn_eq_singleton h]

theorem field_zero (sep : Char) (cs : List Char) :
    field sep cs 0 = (readStringUntil sep cs).1 := by
  unfold field
  rw [splitOn_eq]
  rfl

theorem field_succ (sep : Char) (cs : List Char) (i : Nat) :
    field sep cs (i + 1) = field sep (readStringUntil sep cs).2 i := by
  unfold field
  rw [splitOn_eq sep cs]
  split
  · rfl
  · rename_i h
    rw [readStringUntil_of_not_mem h]
    cases i <;> rfl

/-- Every field is what a read up to the separator takes. -/
theorem field_eq (sep : Char) (cs : List Char) (i : Nat) :
    field sep cs i = (readStringUntil sep (after sep i cs)).1 := by
  induction i generalizing cs with
  | zero => rw [field_zero, after_zero]
  | succ i ih => rw [field_succ, ih, after_succ]

theorem field_append {sep : Char} {cs : List Char} {i : Nat} (h : i < cs.count sep)
    (us : List Char) : field sep (cs ++ us) i = field sep cs i := by
  have hcount := count_after (Nat.le_of_lt h)
  have hmem : sep ∈ after sep i cs := List.count_pos_iff.mp (by omega)
  rw [field_eq, field_eq, after_append_of_le (Nat.le_of_lt h), readStringUntil_append_of_mem hmem]

/-- There is one field more than separators. -/
theorem length_splitOn (sep : Char) (cs : List Char) :
    (cs.splitOn sep).length = cs.count sep + 1 := by
  induction cs with
  | nil => rfl
  | cons c cs ih =>
    rw [List.splitOn_cons_eq_if_modifyHead, List.count_cons]
    split
    · rw [List.length_cons, ih]
    · rw [List.length_modifyHead, ih]

/-! ## Numbers -/

/-- A text that adds nothing to a number before it. -/
structure Ends (us : List Char) : Prop where
  digits : ∀ n, digits n us = n
  leadingInt : leadingInt us = 0

theorem ends_comma (us : List Char) : Ends (',' :: us) := ⟨fun _ => rfl, rfl⟩

theorem ends_newline : Ends ['\n'] := ⟨fun _ => rfl, rfl⟩

theorem digits_append {us : List Char} (h : Ends us) (n : Nat) (cs : List Char) :
    digits n (cs ++ us) = digits n cs := by
  induction cs generalizing n with
  | nil => exact h.digits n
  | cons c cs ih =>
    rw [List.cons_append]
    unfold arduino.digits
    split
    · exact ih _
    · rfl

theorem leadingInt_append {us : List Char} (h : Ends us) (cs : List Char) :
    leadingInt (cs ++ us) = leadingInt cs := by
  have hends := h.leadingInt
  unfold arduino.leadingInt at hends ⊢
  rw [List.dropWhile_append]
  cases hcs : cs.dropWhile isSpace with
  | nil => exact hends
  | cons c rest =>
    simp only [List.isEmpty_cons, Bool.false_eq_true, if_false]
    rw [List.cons_append]
    split
    · rename_i heq
      obtain ⟨rfl, rfl⟩ := List.cons.inj heq
      simp only [digits_append h]
    · rename_i heq
      obtain ⟨rfl, rfl⟩ := List.cons.inj heq
      simp only [digits_append h]
    · rename_i hminus hplus
      rw [← List.cons_append, digits_append h]
      split
      · rename_i heq
        obtain ⟨rfl, rfl⟩ := List.cons.inj heq
        exact absurd rfl (hminus _)
      · rename_i heq
        obtain ⟨rfl, rfl⟩ := List.cons.inj heq
        exact absurd rfl (hplus _)
      · rfl

/-! ## Lines -/

/-- What stands between two newlines. -/
structure Line where
  chars : List Char
  one : '\n' ∉ chars

def Line.text (l : Line) : List Char := l.chars ++ ['\n']

/-- The lines as they stand in the stream. -/
def text (lines : List Line) : List Char := lines.flatMap Line.text

@[simp] theorem text_nil : text [] = [] := rfl

@[simp] theorem text_cons (l : Line) (lines : List Line) :
    text (l :: lines) = l.text ++ text lines := List.flatMap_cons

theorem text_append (lines others : List Line) :
    text (lines ++ others) = text lines ++ text others := List.flatMap_append

/-- As many lines as it takes to find `need` separators, and the lines that are left. -/
def takeLines (sep : Char) : Nat → List Line → List Line × List Line
  | _, [] => ([], [])
  | need, l :: lines =>
    if need ≤ l.text.count sep then ([l], lines)
    else
      (l :: (takeLines sep (need - l.text.count sep) lines).1,
        (takeLines sep (need - l.text.count sep) lines).2)

theorem takeLines_append (sep : Char) (need : Nat) (lines : List Line) :
    (takeLines sep need lines).1 ++ (takeLines sep need lines).2 = lines := by
  induction lines generalizing need with
  | nil => rfl
  | cons l lines ih =>
    unfold takeLines
    split
    · rfl
    · simp only [List.cons_append, ih]

/-- Lines are left only if the separators were found. -/
theorem takeLines_count {sep : Char} {need : Nat} {lines : List Line}
    (h : (takeLines sep need lines).2 ≠ []) :
    need ≤ (text (takeLines sep need lines).1).count sep := by
  induction lines generalizing need with
  | nil => exact absurd rfl h
  | cons l lines ih =>
    unfold takeLines at h ⊢
    split at h
    · rename_i hl
      rw [if_pos hl]
      simpa using hl
    · rename_i hl
      have hrest := ih h
      rw [if_neg hl]
      simp only [text_cons, List.count_append]
      omega

theorem takeLines_length {sep : Char} {need : Nat} {lines : List Line} (h : lines ≠ []) :
    (takeLines sep need lines).2.length < lines.length := by
  induction lines generalizing need with
  | nil => exact absurd rfl h
  | cons l lines ih =>
    unfold takeLines
    split
    · simp
    · cases lines with
      | nil => simp [takeLines]
      | cons k lines =>
        have hrest := @ih (need - l.text.count sep) (List.cons_ne_nil k lines)
        simp only [List.length_cons] at hrest ⊢
        omega

/-- Past the separators there is the rest of a line, or nothing at all. -/
theorem after_takeLines {sep : Char} (hsep : sep ≠ '\n') (need : Nat) (lines : List Line) :
    (after sep need (text (takeLines sep need lines).1) = [] ∧
      after sep need (text lines) = [] ∧ (takeLines sep need lines).2 = []) ∨
    ∃ tail, '\n' ∉ tail ∧ after sep need (text (takeLines sep need lines).1) = tail ++ ['\n'] ∧
      after sep need (text lines) = tail ++ '\n' :: text (takeLines sep need lines).2 := by
  induction lines generalizing need with
  | nil => exact Or.inl ⟨after_nil sep need, after_nil sep need, rfl⟩
  | cons l lines ih =>
    have hcount : l.text.count sep = l.chars.count sep := by
      unfold Line.text
      rw [List.count_append, List.count_singleton]
      simp [Ne.symm hsep]
    unfold takeLines
    split
    · rename_i hl
      have hline : after sep need l.text = after sep need l.chars ++ ['\n'] :=
        after_append_of_le (by omega) _
      have hone : '\n' ∉ after sep need l.chars :=
        fun h => l.one ((after_suffix sep need l.chars).subset h)
      refine Or.inr ⟨after sep need l.chars, hone, ?_, ?_⟩
      · simpa using hline
      · rw [text_cons, after_append_of_le hl, hline]
        simp
    · rename_i hl
      simp only [text_cons]
      rw [after_append_of_lt (by omega), after_append_of_lt (by omega)]
      exact ih _

/-! ## Groups of lines -/

/-- The next line goes to the group, or starts one when the group has its separators. -/
def addLine (sep : Char) (need : Nat) (group : List Line) (l : Line) : List Line :=
  if need ≤ (text group).count sep then [l] else group ++ [l]

/-- The last group of the lines. -/
def lastGroup (sep : Char) (need : Nat) (lines : List Line) : List Line :=
  lines.foldl (addLine sep need) []

theorem foldl_addLine_takeLines {sep : Char} {need : Nat} {group : List Line}
    (h : (text group).count sep < need) (lines : List Line) :
    (takeLines sep (need - (text group).count sep) lines).1.foldl (addLine sep need) group =
      group ++ (takeLines sep (need - (text group).count sep) lines).1 := by
  induction lines generalizing group with
  | nil => simp [takeLines]
  | cons l lines ih =>
    have hadd : addLine sep need group l = group ++ [l] := if_neg (by omega)
    have hcount : (text (group ++ [l])).count sep = (text group).count sep + l.text.count sep := by
      rw [text_append, List.count_append]
      simp
    unfold takeLines
    split
    · simp [hadd]
    · rename_i hl
      have hrest := @ih (group ++ [l]) (by omega)
      rw [hcount, ← Nat.sub_sub] at hrest
      simp only [List.foldl_cons, hadd, hrest, List.append_assoc, List.singleton_append]

/-- The last group is the first one, or that of the lines that it leaves. -/
theorem lastGroup_takeLines {sep : Char} {need : Nat} (hneed : 0 < need) (lines : List Line) :
    lastGroup sep need lines =
      if (takeLines sep need lines).2 = [] then (takeLines sep need lines).1
      else lastGroup sep need (takeLines sep need lines).2 := by
  have hfirst := @foldl_addLine_takeLines sep need [] (by simpa using hneed) lines
  simp only [text_nil, List.count_nil, Nat.sub_zero, List.nil_append] at hfirst
  have hlast : lastGroup sep need lines = (takeLines sep need lines).2.foldl (addLine sep need)
      (takeLines sep need lines).1 := by
    unfold lastGroup
    conv_lhs => rw [← takeLines_append sep need lines]
    rw [List.foldl_append, hfirst]
  rw [hlast]
  split
  · rename_i hnone
    rw [hnone]
    rfl
  · rename_i hsome
    have hcount := takeLines_count hsome
    obtain ⟨l, others, hrest⟩ := List.exists_cons_of_ne_nil hsome
    have hempty : addLine sep need [] l = [l] := if_neg (by simp; omega)
    unfold lastGroup
    rw [hrest, List.foldl_cons, List.foldl_cons, hempty]
    exact congrArg (fun group => others.foldl (addLine sep need) group) (if_pos hcount)

end super_charger.serial_text
