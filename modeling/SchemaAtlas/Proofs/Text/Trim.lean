import SchemaAtlas.Text.Blank
/-!
# Trimming

A text is trimmed when neither its first nor its last character is to be dropped
(`stripBoth_eq_self_iff`). Trimming gives a trimmed text (`trim_trim`) and does not see what
it drops (`stripBoth_append`); where as many blanks are left as before, it has dropped nothing
(`stripBoth_eq_self_of_countP`).
-/

namespace SchemaAtlas.Text

variable {p : Char → Bool} {cs : List Char}

theorem stripBoth_append {a b : List Char} (ha : a.all p = true) (hb : b.all p = true) :
    stripBoth p (a ++ cs ++ b) = stripBoth p cs := by
  rw [List.all_eq_true] at ha hb
  have hrev : ∀ c ∈ b.reverse, p c = true := fun c hc => hb c (List.mem_reverse.1 hc)
  unfold stripBoth
  rw [List.append_assoc, List.dropWhile_append_of_pos ha, List.dropWhile_append]
  split
  · next h =>
    rw [List.isEmpty_iff] at h
    have hdrop : (b ++ []).dropWhile p = [] := List.dropWhile_append_of_pos hb
    rw [List.append_nil] at hdrop
    rw [h, hdrop]
  · rw [List.reverse_append, List.dropWhile_append_of_pos hrev]

/-- What is dropped stands at the two ends. -/
theorem exists_stripBoth (p : Char → Bool) (cs : List Char) :
    ∃ a b, cs = a ++ stripBoth p cs ++ b ∧ a.all p = true ∧ b.all p = true := by
  refine ⟨cs.takeWhile p, ((cs.dropWhile p).reverse.takeWhile p).reverse, ?_, List.all_takeWhile, ?_⟩
  · rw [stripBoth, List.append_assoc, ← List.reverse_append, List.takeWhile_append_dropWhile, List.reverse_reverse,
      List.takeWhile_append_dropWhile]
  · rw [List.all_reverse]
    exact List.all_takeWhile

theorem head?_stripBoth {c : Char} (h : (stripBoth p cs).head? = some c) : p c = false := by
  -- What is left at the end is a start of what is left at the front.
  obtain ⟨rest, hrest⟩ : stripBoth p cs <+: cs.dropWhile p := by
    rw [stripBoth, ← List.reverse_suffix, List.reverse_reverse]
    exact List.dropWhile_suffix p
  have hhead : (cs.dropWhile p).head? = some c := by rw [← hrest, List.head?_append, h]; rfl
  have := List.head?_dropWhile_not p cs
  rw [hhead] at this
  simpa using this

theorem getLast?_stripBoth {c : Char} (h : (stripBoth p cs).getLast? = some c) : p c = false := by
  rw [stripBoth, List.getLast?_reverse] at h
  have := List.head?_dropWhile_not p (cs.dropWhile p).reverse
  rw [h] at this
  simpa using this

theorem dropWhile_eq_self {cs : List Char} (h : ∀ c, cs.head? = some c → p c = false) : cs.dropWhile p = cs := by
  cases cs with
  | nil => rfl
  | cons c cs => rw [List.dropWhile_cons_of_neg (by simp [h c rfl])]

theorem stripBoth_eq_self_iff : stripBoth p cs = cs ↔
    (∀ c, cs.head? = some c → p c = false) ∧ (∀ c, cs.getLast? = some c → p c = false) := by
  constructor
  · intro h
    rw [← h]
    exact ⟨fun c hc => head?_stripBoth hc, fun c hc => getLast?_stripBoth hc⟩
  · rintro ⟨hhead, hlast⟩
    have hrev : ∀ c, cs.reverse.head? = some c → p c = false :=
      fun c hc => hlast c (by rwa [List.head?_reverse] at hc)
    rw [stripBoth, dropWhile_eq_self hhead, dropWhile_eq_self hrev, List.reverse_reverse]

theorem stripBoth_of_ends {a b : Char} (hhead : cs.head? = some a) (hlast : cs.getLast? = some b)
    (ha : p a = false) (hb : p b = false) : stripBoth p cs = cs := by
  rw [stripBoth_eq_self_iff, hhead, hlast]
  constructor
  · rintro c ⟨rfl⟩
    exact ha
  · rintro c ⟨rfl⟩
    exact hb

theorem stripBoth_stripBoth : stripBoth p (stripBoth p cs) = stripBoth p cs :=
  stripBoth_eq_self_iff.2 ⟨fun _ => head?_stripBoth, fun _ => getLast?_stripBoth⟩

/-- What is not to be dropped stays. -/
theorem countP_not_stripBoth (p : Char → Bool) (cs : List Char) :
    (stripBoth p cs).countP (!p ·) = cs.countP (!p ·) := by
  have hdrop : ∀ ds : List Char, (ds.dropWhile p).countP (!p ·) = ds.countP (!p ·) := by
    intro ds
    have htaken : (ds.takeWhile p).countP (!p ·) = 0 :=
      List.countP_eq_zero.2 fun c hc => by simp [List.all_eq_true.1 List.all_takeWhile c hc]
    have hsplit : (ds.takeWhile p ++ ds.dropWhile p).countP (!p ·) = ds.countP (!p ·) := by
      rw [List.takeWhile_append_dropWhile]
    rwa [List.countP_append, htaken, Nat.zero_add] at hsplit
  rw [stripBoth, List.countP_reverse, hdrop, List.countP_reverse, hdrop]

/-- As long as nothing is missing of what is to be dropped, nothing was dropped. -/
theorem stripBoth_eq_self_of_countP (h : (stripBoth p cs).countP p = cs.countP p) : stripBoth p cs = cs := by
  have hpart : (stripBoth p cs).Sublist cs := by
    refine List.Sublist.trans ?_ (List.dropWhile_sublist p)
    rw [stripBoth, ← List.reverse_sublist, List.reverse_reverse]
    exact List.dropWhile_sublist p
  have hcount : ∀ ds : List Char, ds.length = ds.countP p + ds.countP (!p ·) := fun ds => by
    rw [List.length_eq_countP_add_countP p]
    simp
  exact hpart.eq_of_length (by rw [hcount, hcount cs, h, countP_not_stripBoth])

theorem trim_eq_self_iff {s : String} : trim s = s ↔ trimChars s.toList = s.toList := by
  rw [← String.toList_inj, trim, String.toList_ofList]

/-- A text of blanks only is empty once it is trimmed. -/
theorem isBlankText_iff {s : String} : isBlankText s = true ↔ trim s = "" := by
  rw [← String.toList_inj, trim, String.toList_ofList, isBlankText]
  constructor
  · intro hall
    have hdropped := @stripBoth_append isBlank [] s.toList [] hall rfl
    rwa [List.append_nil, List.append_nil] at hdropped
  · intro hnone
    have hcount := countP_not_stripBoth isBlank s.toList
    rw [show stripBoth isBlank s.toList = [] from hnone] at hcount
    rw [List.all_eq_true]
    intro c hc
    simpa using List.countP_eq_zero.1 hcount.symm c hc

theorem trim_trim (s : String) : trim (trim s) = trim s := by
  simp [trim, trimChars, stripBoth_stripBoth]

end SchemaAtlas.Text
