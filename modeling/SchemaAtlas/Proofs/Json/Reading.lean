import SchemaAtlas.Json.Decode
import SchemaAtlas.Proofs.Json.Words
/-!
# Written values read back

`Value.tree` is what a value should be read as, and `Reads` says that a text is read
that way, whatever follows it. A list or an object reads back once its parts do, with
any spaces between them (`reads_array`, `reads_object`); so both ways of writing a value
do (`Value.reads_compact`, `Value.reads_pretty`).
-/

namespace SchemaAtlas.Json

/-! ## Texts that are read as a tree -/

/-- The text is read as the tree, before anything that does not continue a number. -/
structure Reads (cs : List Char) (t : Tree) : Prop where
  /-- It starts with neither a space nor the end of a list. -/
  starts : ∃ c r, cs = c :: r ∧ isSpace c = false ∧ c ≠ ']'
  read : ∀ fuel rest, cs.length < fuel → Ends rest → readValue fuel (cs ++ rest) = (t, rest)

/-- A text of spaces only. -/
def Spaces (cs : List Char) : Prop := ∀ c ∈ cs, isSpace c = true

theorem spaces_nil : Spaces [] := by simp [Spaces]

theorem spaces_newline (level : Nat) : Spaces (newline level) := by
  intro c hc
  simp only [newline, List.mem_cons, List.mem_replicate] at hc
  rcases hc with rfl | ⟨-, rfl⟩ <;> rfl

theorem skipSpace_append {sp : List Char} (h : Spaces sp) (cs : List Char) :
    skipSpace (sp ++ cs) = skipSpace cs :=
  List.dropWhile_append_of_pos h

theorem skipSpace_cons {c : Char} (h : isSpace c = false) (cs : List Char) :
    skipSpace (c :: cs) = c :: cs := by
  simp [skipSpace, h]

theorem readValue_spaces {sp : List Char} (h : Spaces sp) (fuel : Nat) (cs : List Char) :
    readValue fuel (sp ++ cs) = readValue fuel cs := by
  cases fuel with
  | zero => simp only [readValue]
  | succ fuel => simp only [readValue, skipSpace_append h]

theorem not_isSpace_of_isDigit {c : Char} (h : c.isDigit = true) : isSpace c = false := by
  simp only [Char.isDigit, Bool.and_eq_true, decide_eq_true_eq, isSpace, Bool.or_eq_false_iff,
    beq_eq_false_iff_ne] at h ⊢
  refine ⟨⟨⟨?_, ?_⟩, ?_⟩, ?_⟩ <;> rintro rfl <;> revert h <;> decide

/-- Spaces and a closing character do not continue a number. -/
theorem ends_spaces {sp : List Char} (h : Spaces sp) {cs : List Char} (he : Ends cs) :
    Ends (sp ++ cs) := by
  cases sp with
  | nil => exact he
  | cons c sp =>
    rw [List.cons_append, ends_cons]
    have hc := h c (by simp)
    refine ⟨?_, ?_, ?_, ?_⟩
    · cases hd : c.isDigit with
      | false => rfl
      | true => rw [not_isSpace_of_isDigit hd] at hc; cases hc
    all_goals rintro rfl; revert hc; decide

/-! ## Simple values -/

theorem reads_literal {c : Char} {ls : List Char} {t : Tree}
    (hc : c = 'n' ∧ ls = ['u', 'l', 'l'] ∧ t = .null ∨ c = 't' ∧ ls = ['r', 'u', 'e'] ∧ t = .bool true ∨
      c = 'f' ∧ ls = ['a', 'l', 's', 'e'] ∧ t = .bool false) : Reads (c :: ls) t := by
  constructor
  · rcases hc with ⟨rfl, -⟩ | ⟨rfl, -⟩ | ⟨rfl, -⟩ <;> exact ⟨_, _, rfl, rfl, by decide⟩
  · intro fuel rest hf _
    obtain ⟨fuel, rfl⟩ : ∃ n, fuel = n + 1 := ⟨fuel - 1, by omega⟩
    rcases hc with ⟨rfl, rfl, rfl⟩ | ⟨rfl, rfl, rfl⟩ | ⟨rfl, rfl, rfl⟩ <;>
      simp [readValue, skipSpace, isSpace, readLiteral]

theorem reads_bool (b : Bool) : Reads (boolText b) (.bool b) := by
  cases b
  · exact reads_literal (.inr (.inr ⟨rfl, rfl, rfl⟩))
  · exact reads_literal (.inr (.inl ⟨rfl, rfl, rfl⟩))

theorem reads_natural {n : Nat} (hn : n ≤ maxWord) : Reads (Decimal.digits n) (.number (.natural n)) := by
  obtain ⟨c, cs, hc, -⟩ := Decimal.head_digits n
  have hd : c.isDigit = true := Decimal.isDigit_of_mem_digits (n := n) (by simp [hc])
  have ne : ∀ x : Char, x.isDigit = false → c ≠ x := by rintro x hx rfl; rw [hd] at hx; cases hx
  refine ⟨⟨c, cs, hc, not_isSpace_of_isDigit hd, ne _ rfl⟩, fun fuel rest hf he => ?_⟩
  obtain ⟨fuel, rfl⟩ : ∃ k, fuel = k + 1 := ⟨fuel - 1, by omega⟩
  have hr := readUnsigned_digits hn he
  rw [hc, List.cons_append] at hr ⊢
  simp only [readValue, skipSpace_cons (not_isSpace_of_isDigit hd)]
  rw [if_neg (ne _ rfl), if_neg (ne _ rfl), if_neg (ne _ rfl), if_neg (ne _ rfl), if_neg (ne _ rfl),
    if_neg (ne _ rfl), if_neg (ne _ rfl), if_pos hd, hr]
  rfl

theorem reads_string (s : String) : Reads (quoted s) (.string (.text s)) := by
  refine ⟨⟨'"', _, rfl, rfl, by decide⟩, fun fuel rest hf _ => ?_⟩
  obtain ⟨fuel, rfl⟩ : ∃ k, fuel = k + 1 := ⟨fuel - 1, by omega⟩
  simp only [quoted, List.cons_append, List.append_assoc, List.nil_append, readValue,
    skipSpace_cons (show isSpace '"' = false from rfl), if_true, readWord_escaped]
  rfl

/-! ## Lists -/

/-- Texts that are read as the items of a list. -/
inductive ReadsItems : List (List Char) → Items → Prop
  | nil : ReadsItems [] .closed
  | cons {cs : List Char} {t : Tree} {ts : List (List Char)} {items : Items} :
      Reads cs t → ReadsItems ts items → ReadsItems (cs :: ts) (.item t items)

/-- The parts after the first one, each behind a comma and the same spaces. -/
def laterParts (sp : List Char) : List (List Char) → List Char
  | [] => []
  | cs :: ts => ',' :: (sp ++ cs ++ laterParts sp ts)

/-- Parts behind the same spaces, separated by commas. -/
def parts (sp : List Char) : List (List Char) → List Char
  | [] => []
  | cs :: ts => sp ++ cs ++ laterParts sp ts

theorem ends_laterParts (sp : List Char) {ending : List Char} (he : Ends ending) (ts : List (List Char)) :
    Ends (laterParts sp ts ++ ending) := by
  cases ts with
  | nil => exact he
  | cons cs ts => exact ends_cons.2 (by decide)

/-- A part is read behind the spaces before it, and the later parts are left. -/
theorem Reads.read_part {cs gap ending : List Char} {t : Tree} (h : Reads cs t) (hgap : Spaces gap) (he : Ends ending)
    (sp : List Char) (ts : List (List Char)) {fuel : Nat} (hf : cs.length < fuel) :
    readValue fuel (gap ++ (cs ++ (laterParts sp ts ++ ending))) = (t, laterParts sp ts ++ ending) := by
  rw [readValue_spaces hgap]
  exact h.read fuel _ hf (ends_laterParts sp he ts)

theorem readItems_later {sp ending rest : List Char} (hsp : Spaces sp) (he : Ends ending)
    (hend : skipSpace ending = ']' :: rest) {ts : List (List Char)} {items : Items}
    (h : ReadsItems ts items) (fuel : Nat) (hf : (laterParts sp ts).length < fuel) :
    readItems fuel false (laterParts sp ts ++ ending) = (items, rest) := by
  induction h generalizing fuel with
  | nil =>
    obtain ⟨fuel, rfl⟩ : ∃ k, fuel = k + 1 := ⟨fuel - 1, by omega⟩
    simp [laterParts, readItems, hend]
  | @cons cs t ts items hr _ ih =>
    obtain ⟨fuel, rfl⟩ : ∃ k, fuel = k + 1 := ⟨fuel - 1, by omega⟩
    simp only [laterParts, List.length_cons, List.length_append] at hf
    obtain ⟨c, r, rfl, hc, hne⟩ := hr.starts
    have hskip : skipSpace (sp ++ (c :: r ++ (laterParts sp ts ++ ending))) =
        c :: r ++ (laterParts sp ts ++ ending) := by
      rw [skipSpace_append hsp, List.cons_append, skipSpace_cons hc]
    have hv := hr.read_part hsp he sp ts (show (c :: r).length < fuel by omega)
    simp only [laterParts, List.cons_append, List.append_assoc] at hskip hv ⊢
    simp only [readItems, skipSpace_cons (show isSpace ',' = false from rfl), hskip, List.head?_cons]
    simp [hne, hv, ih fuel (by omega)]

theorem readItems_parts {sp ending rest : List Char} (hsp : Spaces sp) (he : Ends ending)
    (hend : skipSpace ending = ']' :: rest) {ts : List (List Char)} {items : Items}
    (h : ReadsItems ts items) (fuel : Nat) (hf : (parts sp ts).length + 1 < fuel) :
    readItems fuel true (parts sp ts ++ ending) = (items, rest) := by
  obtain ⟨fuel, rfl⟩ : ∃ k, fuel = k + 1 := ⟨fuel - 1, by omega⟩
  cases h with
  | nil => simp [parts, readItems, hend]
  | @cons cs t ts items hr hrs =>
    simp only [parts, List.length_append] at hf
    obtain ⟨c, r, rfl, hc, hne⟩ := hr.starts
    have hv := hr.read fuel _ (by omega) (ends_laterParts sp he ts)
    simp only [parts, List.append_assoc, List.cons_append] at hv ⊢
    simp only [readItems, skipSpace_append hsp, skipSpace_cons hc]
    simp [hne, hv, readItems_later hsp he hend hrs fuel (by omega)]

/-- A list whose items read back reads back. -/
theorem reads_array {sp last : List Char} (hsp : Spaces sp) (hlast : Spaces last)
    {ts : List (List Char)} {items : Items} (h : ReadsItems ts items) :
    Reads ('[' :: (parts sp ts ++ last) ++ [']']) (.array items) := by
  refine ⟨⟨'[', _, rfl, rfl, by decide⟩, fun fuel rest hf _ => ?_⟩
  obtain ⟨fuel, rfl⟩ : ∃ k, fuel = k + 1 := ⟨fuel - 1, by omega⟩
  simp only [List.cons_append, List.length_cons, List.length_append, List.length_nil] at hf
  have hend : skipSpace (last ++ ']' :: rest) = ']' :: rest := by
    rw [skipSpace_append hlast, skipSpace_cons rfl]
  have hitems := readItems_parts hsp (ends_spaces hlast (ends_cons.2 (by decide))) hend h fuel (by omega)
  simp only [List.cons_append, List.append_assoc, List.nil_append, readValue,
    skipSpace_cons (show isSpace '[' = false from rfl), hitems]
  rfl

/-! ## Objects -/

/-- A member: its name, a colon, the spaces `gap` and the text of its value. -/
def memberText (gap : List Char) (key : String) (cs : List Char) : List Char :=
  quoted key ++ ':' :: (gap ++ cs)

/-- Texts that are read as the members of an object. -/
inductive ReadsMembers (gap : List Char) : List (List Char) → Members → Prop
  | nil : ReadsMembers gap [] .closed
  | cons (key : String) {cs : List Char} {t : Tree} {ts : List (List Char)} {members : Members} :
      Reads cs t → ReadsMembers gap ts members →
      ReadsMembers gap (memberText gap key cs :: ts) (.member (.text key) t members)

theorem readMembers_later {gap sp ending rest : List Char} (hgap : Spaces gap) (hsp : Spaces sp)
    (he : Ends ending) (hend : skipSpace ending = '}' :: rest) {ts : List (List Char)}
    {members : Members} (h : ReadsMembers gap ts members) (fuel : Nat)
    (hf : (laterParts sp ts).length < fuel) :
    readMembers fuel false (laterParts sp ts ++ ending) = (members, rest) := by
  induction h generalizing fuel with
  | nil =>
    obtain ⟨fuel, rfl⟩ : ∃ k, fuel = k + 1 := ⟨fuel - 1, by omega⟩
    simp [laterParts, readMembers, hend]
  | @cons key cs t ts members hr _ ih =>
    obtain ⟨fuel, rfl⟩ : ∃ k, fuel = k + 1 := ⟨fuel - 1, by omega⟩
    simp only [laterParts, memberText, List.length_cons, List.length_append] at hf
    have hv := hr.read_part hgap he sp ts (show cs.length < fuel by omega)
    simp only [laterParts, memberText, quoted, List.cons_append, List.append_assoc, List.nil_append,
      readMembers, skipSpace_cons (show isSpace ',' = false from rfl), skipSpace_append hsp,
      skipSpace_cons (show isSpace '"' = false from rfl)]
    simp [readWord_escaped, skipSpace_cons (show isSpace ':' = false from rfl), hv, ih fuel (by omega)]

theorem readMembers_parts {gap sp ending rest : List Char} (hgap : Spaces gap) (hsp : Spaces sp)
    (he : Ends ending) (hend : skipSpace ending = '}' :: rest) {ts : List (List Char)}
    {members : Members} (h : ReadsMembers gap ts members) (fuel : Nat)
    (hf : (parts sp ts).length + 1 < fuel) :
    readMembers fuel true (parts sp ts ++ ending) = (members, rest) := by
  obtain ⟨fuel, rfl⟩ : ∃ k, fuel = k + 1 := ⟨fuel - 1, by omega⟩
  cases h with
  | nil => simp [parts, readMembers, hend]
  | @cons key cs t ts members hr hrs =>
    simp only [parts, memberText, List.length_append, List.length_cons] at hf
    have hv := hr.read_part hgap he sp ts (show cs.length < fuel by omega)
    simp only [parts, memberText, quoted, List.cons_append, List.append_assoc, List.nil_append,
      readMembers, skipSpace_append hsp, skipSpace_cons (show isSpace '"' = false from rfl)]
    simp [readWord_escaped, skipSpace_cons (show isSpace ':' = false from rfl), hv,
      readMembers_later hgap hsp he hend hrs fuel (by omega)]

/-- An object whose values read back reads back. -/
theorem reads_object {gap sp last : List Char} (hgap : Spaces gap) (hsp : Spaces sp)
    (hlast : Spaces last) {ts : List (List Char)} {members : Members}
    (h : ReadsMembers gap ts members) :
    Reads ('{' :: (parts sp ts ++ last) ++ ['}']) (.object members) := by
  refine ⟨⟨'{', _, rfl, rfl, by decide⟩, fun fuel rest hf _ => ?_⟩
  obtain ⟨fuel, rfl⟩ : ∃ k, fuel = k + 1 := ⟨fuel - 1, by omega⟩
  simp only [List.cons_append, List.length_cons, List.length_append, List.length_nil] at hf
  have hend : skipSpace (last ++ '}' :: rest) = '}' :: rest := by
    rw [skipSpace_append hlast, skipSpace_cons rfl]
  have hmembers := readMembers_parts hgap hsp (ends_spaces hlast (ends_cons.2 (by decide))) hend h
    fuel (by omega)
  simp only [List.cons_append, List.append_assoc, List.nil_append, readValue,
    skipSpace_cons (show isSpace '{' = false from rfl), hmembers]
  rfl

/-! ## Values -/

mutual

/-- What a written value is to be read as. A number in single precision is read as its
decimal text is. -/
def Value.tree : Value → Tree
  | .null => .null
  | .bool b => .bool b
  | .natural n => .number (.natural n)
  | .real x => (readTree (realText x)).1
  | .string s => .string (.text s)
  | .array items => .array (itemsTree items)
  | .object members => .object (membersTree members)

/-- What written items are to be read as. -/
def itemsTree : List Value → Items
  | [] => .closed
  | v :: vs => .item v.tree (itemsTree vs)

/-- What written members are to be read as. -/
def membersTree : List (String × Value) → Members
  | [] => .closed
  | (k, v) :: ms => .member (.text k) v.tree (membersTree ms)

end

mutual

/-- All natural numbers in the value have 64 bits, and the texts of its numbers in single
precision can be read. -/
def Value.Exact : Value → Prop
  | .natural n => n ≤ maxWord
  | .real x => Reads (realText x) (readTree (realText x)).1
  | .array items => ExactItems items
  | .object members => ExactMembers members
  | _ => True

/-- All items are exact. -/
def ExactItems : List Value → Prop
  | [] => True
  | v :: vs => v.Exact ∧ ExactItems vs

/-- The values of all members are exact. -/
def ExactMembers : List (String × Value) → Prop
  | [] => True
  | (_, v) :: ms => v.Exact ∧ ExactMembers ms

end

/-- A writer that puts a comma between two texts writes parts. -/
theorem eq_parts {α : Type} {g : List α → List Char} {h : α → List Char} {sp : List Char}
    (h0 : g [] = []) (h1 : ∀ a, g [a] = sp ++ h a)
    (h2 : ∀ a b l, g (a :: b :: l) = sp ++ h a ++ ',' :: g (b :: l)) (l : List α) :
    g l = parts sp (l.map h) := by
  induction l with
  | nil => exact h0
  | cons a l ih =>
    cases l with
    | nil => simp [h1, parts, laterParts]
    | cons b l => rw [h2, ih]; simp [parts, laterParts]

theorem compactItems_eq (vs : List Value) : compactItems vs = parts [] (vs.map Value.compactChars) :=
  eq_parts rfl (by simp [compactItems]) (by simp [compactItems]) vs

theorem compactMembers_eq (ms : List (String × Value)) :
    compactMembers ms = parts [] (ms.map fun m => memberText [] m.1 m.2.compactChars) :=
  eq_parts rfl (by simp [compactMembers, memberText]) (by simp [compactMembers, memberText]) ms

theorem prettyItems_eq (level : Nat) (vs : List Value) :
    prettyItems level vs = parts (newline level) (vs.map (·.prettyChars level)) :=
  eq_parts rfl (by simp [prettyItems]) (by simp [prettyItems]) vs

theorem prettyMembers_eq (level : Nat) (ms : List (String × Value)) :
    prettyMembers level ms =
      parts (newline level) (ms.map fun m => memberText [' '] m.1 (m.2.prettyChars level)) :=
  eq_parts rfl (by simp [prettyMembers, memberText]) (by simp [prettyMembers, memberText]) ms

mutual

theorem Value.reads_compact : (v : Value) → v.Exact → Reads v.compactChars v.tree
  | .null, _ => reads_literal (.inl ⟨rfl, rfl, rfl⟩)
  | .bool b, _ => reads_bool b
  | .natural _, h => reads_natural h
  | .real _, h => h
  | .string s, _ => reads_string s
  | .array items, h => by
    have := reads_array spaces_nil spaces_nil (readsItems_compact items h)
    simpa only [Value.compactChars, Value.tree, compactItems_eq, List.append_nil] using this
  | .object members, h => by
    have := reads_object spaces_nil spaces_nil spaces_nil (readsMembers_compact members h)
    simpa only [Value.compactChars, Value.tree, compactMembers_eq, List.append_nil] using this

theorem readsItems_compact :
    (vs : List Value) → ExactItems vs → ReadsItems (vs.map Value.compactChars) (itemsTree vs)
  | [], _ => .nil
  | v :: vs, h => .cons (v.reads_compact h.1) (readsItems_compact vs h.2)

theorem readsMembers_compact : (ms : List (String × Value)) → ExactMembers ms →
    ReadsMembers [] (ms.map fun m => memberText [] m.1 m.2.compactChars) (membersTree ms)
  | [], _ => .nil
  | (k, v) :: ms, h => .cons k (v.reads_compact h.1) (readsMembers_compact ms h.2)

end

mutual

theorem Value.reads_pretty : (v : Value) → v.Exact → ∀ level, Reads (v.prettyChars level) v.tree
  | .null, _, _ => reads_literal (.inl ⟨rfl, rfl, rfl⟩)
  | .bool b, _, _ => reads_bool b
  | .natural _, h, _ => reads_natural h
  | .real _, h, _ => h
  | .string s, _, _ => reads_string s
  | .array [], _, _ => reads_array spaces_nil spaces_nil .nil
  | .array (v :: vs), h, level => by
    have := reads_array (spaces_newline (level + 1)) (spaces_newline level)
      (readsItems_pretty (v :: vs) h (level + 1))
    simpa only [Value.prettyChars, Value.tree, prettyItems_eq, List.cons_append, List.append_assoc] using this
  | .object [], _, _ => reads_object spaces_nil spaces_nil spaces_nil .nil
  | .object (m :: ms), h, level => by
    have hgap : Spaces [' '] := by simp [Spaces, isSpace]
    have := reads_object hgap (spaces_newline (level + 1)) (spaces_newline level)
      (readsMembers_pretty (m :: ms) h (level + 1))
    simpa only [Value.prettyChars, Value.tree, prettyMembers_eq, List.cons_append, List.append_assoc] using this

theorem readsItems_pretty : (vs : List Value) → ExactItems vs →
    ∀ level, ReadsItems (vs.map (·.prettyChars level)) (itemsTree vs)
  | [], _, _ => .nil
  | v :: vs, h, level => .cons (v.reads_pretty h.1 level) (readsItems_pretty vs h.2 level)

theorem readsMembers_pretty : (ms : List (String × Value)) → ExactMembers ms → ∀ level,
    ReadsMembers [' '] (ms.map fun m => memberText [' '] m.1 (m.2.prettyChars level)) (membersTree ms)
  | [], _, _ => .nil
  | (k, v) :: ms, h, level => .cons k (v.reads_pretty h.1 level) (readsMembers_pretty ms h.2 level)

end

/-! ## Whole texts -/

/-- Spaces may follow the value. -/
theorem parse_of_reads_spaces {α : Type} {cs sp : List Char} {t : Tree} (h : Reads cs t) (hsp : Spaces sp)
    (f : Decoder α) : parse f (String.ofList (cs ++ sp)) = f t := by
  have he : Ends sp := by simpa using ends_spaces hsp ends_nil
  have hr : readTree (cs ++ sp) = (t, sp) :=
    h.read ((cs ++ sp).length + 1) sp (by rw [List.length_append]; omega) he
  have hskip : skipSpace sp = [] := (congrArg skipSpace sp.append_nil).symm.trans (skipSpace_append hsp [])
  simp only [parse, String.toList_ofList, hr, hskip, List.isEmpty_nil, if_true]
  cases f t <;> rfl

theorem parse_of_reads {α : Type} {cs : List Char} {t : Tree} (h : Reads cs t) (f : Decoder α) :
    parse f (String.ofList cs) = f t := by
  simpa using parse_of_reads_spaces h spaces_nil f

/-- What a decoder makes of a text on one line is what it makes of the value. -/
theorem parse_compact {α : Type} {v : Value} (h : v.Exact) (f : Decoder α) : parse f v.compact = f v.tree :=
  parse_of_reads (v.reads_compact h) f

/-- What a decoder makes of a text on several lines is what it makes of the value. -/
theorem parse_pretty {α : Type} {v : Value} (h : v.Exact) (f : Decoder α) : parse f v.pretty = f v.tree :=
  parse_of_reads (v.reads_pretty h 0) f

/-- A line end after the text changes nothing. -/
theorem parse_line {α : Type} {cs : List Char} {t : Tree} (h : Reads cs t) (f : Decoder α) :
    parse f (String.ofList cs ++ "\n") = f t := by
  have hsp : Spaces ['\n'] := by simp [Spaces, isSpace]
  have := parse_of_reads_spaces h hsp f
  rwa [String.ofList_append] at this

end SchemaAtlas.Json
