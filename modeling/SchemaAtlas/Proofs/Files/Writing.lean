import SchemaAtlas.Files
import Mathlib.Data.List.Basic
/-!
# A written file is read back

A text that is written into a folder is read back under the path of the folder and the name, through the
folders that were made for it (`read_of_write`). Folders stay folders while more of them are made, and a file
that is put into the last one stands in no other's way: a folder below the place of the file would have made
the place a folder too, where no file is written.
-/

namespace SchemaAtlas

/-! ## Paths -/

namespace Path

theorem cut_ne_nil (cs : List Char) : cut cs ≠ [] := by
  cases cs with
  | nil => simp [cut]
  | cons c cs =>
    rw [cut]
    split
    · simp
    · split <;> simp

/-- The names before and after a slash. -/
theorem cut_slash (a b : List Char) : cut (a ++ '/' :: b) = cut a ++ cut b := by
  induction a with
  | nil => simp [cut]
  | cons c a ih =>
    rw [List.cons_append, cut, cut, ih]
    split
    · rfl
    · cases ha : cut a with
      | nil => exact absurd ha (cut_ne_nil a)
      | cons p ps => rfl

theorem cut_of_not_mem {cs : List Char} (h : '/' ∉ cs) : cut cs = [cs] := by
  induction cs with
  | nil => rfl
  | cons c cs ih =>
    simp only [List.mem_cons, not_or] at h
    rw [cut, if_neg (Ne.symm h.1), ih h.2]

/-- A name that leads from a folder to something in it. -/
structure IsName (name : String) : Prop where
  whole : '/' ∉ name.toList
  nonempty : name ≠ ""
  here : name ≠ "."
  above : name ≠ ".."

variable {folder name : String}

theorem names_slash {a b : String} : names (a ++ "/" ++ b) = names a ++ names b := by
  have hslash : ("/" : String).toList = ['/'] := rfl
  rw [names, String.toList_append, String.toList_append, hslash, List.append_assoc, List.singleton_append, cut_slash,
    List.map_append]
  rfl

theorem names_name (h : IsName name) : names name = [name] := by
  rw [names, cut_of_not_mem h.whole]
  simp

theorem not_startsWith (h : IsName name) : name.startsWith "/" = false := by
  rw [String.startsWith_string_eq_false_iff]
  rintro ⟨r, hr⟩
  exact h.whole (hr ▸ by simp)

/-- The name stands last in the path, behind the names along the folder's path. -/
theorem names_join (folder : String) (h : IsName name) :
    ∃ before, names (join folder name) = before ++ [name] ∧
      (before.filter fun p => p != "" && p != ".") = parts folder := by
  unfold join
  rw [not_startsWith h, Bool.or_false]
  split
  · next hempty =>
    obtain rfl := String.isEmpty_iff.1 hempty
    exact ⟨[], by rw [names_name h]; rfl, rfl⟩
  · split
    · next hslash =>
      rw [String.endsWith_eq_endsWith_toSlice, String.Slice.endsWith_string_iff] at hslash
      obtain ⟨r, hr⟩ := hslash
      obtain rfl : folder = String.ofList r ++ "/" := by
        rw [← String.toList_inj, String.toList_append, String.toList_ofList]
        simpa using hr.symm
      refine ⟨names (String.ofList r), by rw [names_slash, names_name h], ?_⟩
      have hfolder : names (String.ofList r ++ "/") = names (String.ofList r) ++ [""] := by
        have hsplit := @names_slash (String.ofList r) ""
        rwa [String.append_empty] at hsplit
      rw [parts, hfolder, List.filter_append]
      simp
    · exact ⟨names folder, by rw [names_slash, names_name h], rfl⟩

theorem start_join (fs : Files) (h : IsName name) : fs.start (join folder name) = fs.start folder := by
  have hstart : (join folder name).startsWith "/" = folder.startsWith "/" := by
    unfold join
    rw [not_startsWith h, Bool.or_false]
    split
    · next hempty =>
      obtain rfl := String.isEmpty_iff.1 hempty
      rw [not_startsWith h]
      rfl
    · next hne =>
      obtain ⟨c, r, hr⟩ : ∃ c r, folder.toList = c :: r := by
        refine List.exists_cons_of_ne_nil fun hnil => hne ?_
        rw [String.isEmpty_iff, ← String.toList_inj, hnil]
        rfl
      have hslash : ("/" : String).toList = ['/'] := rfl
      have hboth : ∀ t : String, (folder ++ t).startsWith "/" = folder.startsWith "/" := fun t => by
        rw [Bool.eq_iff_iff, String.startsWith_string_iff, String.startsWith_string_iff, String.toList_append, hr, hslash]
        simp [List.cons_prefix_cons]
      split
      · exact hboth name
      · rw [String.append_assoc]
        exact hboth _
  rw [Files.start, Files.start, hstart]

theorem join_ne_empty (h : IsName name) : (join folder name).isEmpty = false := by
  rw [Bool.eq_false_iff, Ne, String.isEmpty_iff, join]
  intro hempty
  have hlength := congrArg String.length hempty
  have hname : 0 < name.length := Nat.pos_of_ne_zero fun h0 => h.nonempty (by simpa using h0)
  split at hlength
  · simp only [String.length_empty] at hlength
    omega
  · split at hlength <;> simp only [String.length_append, String.length_empty] at hlength <;> omega

end Path

/-! ## Places -/

namespace Files

variable {fs fs' : Files} {p q place : List String} {content : Option String} {name : String}

theorem node?_eq_folder :
    fs.node? p = some .folder ↔
      fs.plain.lookup p = none ∧
        (p = [] ∨ p <+: fs.here ∨ (∃ f ∈ fs.folders, p <+: f) ∨ ∃ f ∈ fs.plain, p <+: f.1) := by
  unfold node?
  split
  · next h => simp [h]
  · next h =>
    simp only [ite_eq_left_iff, reduceCtorEq, imp_false, Decidable.not_not, Bool.or_eq_true, List.any_eq_true,
      List.isEmpty_iff, List.isPrefixOf_iff_prefix, h, true_and, or_assoc]

/-- Folders stay folders. -/
theorem node?_makeAt (h : fs.node? p = some .folder) (q : List String) : (fs.makeAt q).node? p = some .folder := by
  unfold makeAt
  split
  · exact h
  · rw [node?_eq_folder] at h ⊢
    refine ⟨h.1, ?_⟩
    rcases h.2 with hp | hp | ⟨f, hf, hp⟩ | hp
    · exact .inl hp
    · exact .inr (.inl hp)
    · exact .inr (.inr (.inl ⟨f, List.mem_cons_of_mem _ hf, hp⟩))
    · exact .inr (.inr (.inr hp))

theorem node?_putAt (fs : Files) (place : List String) (content : Option String) :
    (fs.putAt place content).node? place = some (.plain content) := by
  simp [node?, putAt]

theorem lookup_filter {l : List (List String × Option String)} {keep : List String × Option String → Bool}
    (hp : l.lookup p = none) : (l.filter keep).lookup p = none := by
  rw [List.lookup_eq_none_iff] at hp ⊢
  exact fun e he => hp e (List.mem_of_mem_filter he)

/-- A folder that is not below the place of a file stays a folder. -/
theorem node?_putAt_folder (h : fs.node? p = some .folder) (hplace : ¬ place <+: p) (content : Option String) :
    (fs.putAt place content).node? p = some .folder := by
  rw [node?_eq_folder] at h ⊢
  obtain ⟨hnone, h⟩ := h
  have hkeep : ∀ {f : List String}, ¬ place <+: f → (!place.isPrefixOf f) = true := fun hf => by
    rwa [Bool.not_eq_true', Bool.eq_false_iff, Ne, List.isPrefixOf_iff_prefix]
  -- What the file replaces is below the folder only if the file is.
  have hbelow : ∀ {f : List String}, p <+: f → place <+: f → p <+: place := fun hp hf =>
    (List.prefix_or_prefix_of_prefix hp hf).resolve_right hplace
  have hput : p <+: place → ∃ e ∈ (fs.putAt place content).plain, p <+: e.1 := fun hp =>
    ⟨(place, content), List.mem_cons_self, hp⟩
  refine ⟨?_, ?_⟩
  · have hne : p ≠ place := by
      rintro rfl
      exact hplace List.prefix_rfl
    simp only [putAt, List.lookup_cons, beq_eq_false_iff_ne.2 hne]
    exact lookup_filter hnone
  · rcases h with hp | hp | ⟨f, hf, hp⟩ | ⟨f, hf, hp⟩
    · exact .inl hp
    · exact .inr (.inl hp)
    · by_cases hover : place <+: f
      · exact .inr (.inr (.inr (hput (hbelow hp hover))))
      · exact .inr (.inr (.inl ⟨f, List.mem_filter.2 ⟨hf, hkeep hover⟩, hp⟩))
    · by_cases hover : place <+: f.1
      · exact .inr (.inr (.inr (hput (hbelow hp hover))))
      · exact .inr (.inr (.inr ⟨f, List.mem_cons_of_mem _ (List.mem_filter.2 ⟨hf, hkeep hover⟩), hp⟩))

/-! ## Ways -/

theorem follow_ok (h : fs.follow p name = .ok q) :
    fs.node? p = some .folder ∧ (q = p ∨ q = p.dropLast ∨ ∃ x, q = p ++ [x]) := by
  unfold follow at h
  split at h
  · cases h
  · cases h
  · next hp =>
    refine ⟨hp, ?_⟩
    split at h
    · cases h
      exact .inl rfl
    · split at h
      · cases h
        exact .inr (.inl rfl)
      · split at h
        · cases h
        · cases h
          exact .inr (.inr ⟨name, rfl⟩)

theorem follow_name (hname : Path.IsName name) (h : fs.follow p name = .ok q) : q = p ++ [name] := by
  unfold follow at h
  split at h
  · cases h
  · cases h
  · rw [if_neg (by simp [hname.nonempty, hname.here]), if_neg (by simp [hname.above])] at h
    split at h
    · cases h
    · cases h
      rfl

/-- Following a name depends on the place being a folder only. -/
theorem follow_congr (h : fs.node? p = some .folder) (h' : fs'.node? p = some .folder) (name : String) :
    fs'.follow p name = fs.follow p name := by
  simp only [follow, h, h']

/-- One step of making the folders along a path. -/
def enter (state : Files × List String) (name : String) : Except FileError (Files × List String) := do
  let next ← state.1.follow state.2 name
  return (state.1.makeAt next, next)

theorem enter_ok {state : Files × List String} (h : enter (fs, p) name = .ok state) :
    ∃ q, fs.follow p name = .ok q ∧ state = (fs.makeAt q, q) := by
  cases hq : fs.follow p name with
  | error e => simp [enter, hq, bind, Except.bind] at h
  | ok q =>
    simp only [enter, hq, bind, Except.bind, pure, Except.pure, Except.ok.injEq] at h
    exact ⟨q, rfl, h.symm⟩

theorem foldlM_cons_ok {α β ε : Type} {f : β → α → Except ε β} {b c : β} {a : α} {as : List α}
    (h : (a :: as).foldlM f b = .ok c) : ∃ b', f b a = .ok b' ∧ as.foldlM f b' = .ok c := by
  rw [List.foldlM_cons] at h
  cases hb : f b a with
  | error e => rw [hb] at h; cases h
  | ok b' => rw [hb] at h; exact ⟨b', rfl, h⟩

theorem foldlM_cons_of_ok {α β ε : Type} {f : β → α → Except ε β} {b b' : β} {a : α} {as : List α} (h : f b a = .ok b') :
    (a :: as).foldlM f b = as.foldlM f b' := by
  rw [List.foldlM_cons, h]
  rfl

variable {names : List String} {fs₁ : Files} {last : List String}

/-- Making folders keeps the folders that are there. -/
theorem enter_keeps (h : names.foldlM enter (fs, p) = .ok (fs₁, last)) :
    fs₁.here = fs.here ∧ ∀ q, fs.node? q = some .folder → fs₁.node? q = some .folder := by
  induction names generalizing fs p with
  | nil =>
    cases h
    exact ⟨rfl, fun _ hq => hq⟩
  | cons name names ih =>
    obtain ⟨state, hstep, h⟩ := foldlM_cons_ok h
    obtain ⟨next, -, rfl⟩ := enter_ok hstep
    obtain ⟨hhere, hkeeps⟩ := ih h
    refine ⟨hhere.trans ?_, fun q hq => hkeeps q (node?_makeAt hq next)⟩
    unfold makeAt
    split <;> rfl

/-- Among later files the same way leads to the last folder, if all folders but those below a place are
still there. The way does not lead below the place: it could only leave through the place itself. -/
theorem way_of_enter (h : names.foldlM enter (fs, p) = .ok (fs₁, last)) (hplace : fs₁.node? place ≠ some .folder)
    (hlast : ¬ place <+: last)
    (hlater : ∀ q, fs₁.node? q = some .folder → ¬ place <+: q → fs'.node? q = some .folder) :
    ¬ place <+: p ∧ names.foldlM fs'.follow p = .ok last := by
  induction names generalizing fs p with
  | nil =>
    cases h
    exact ⟨hlast, rfl⟩
  | cons name names ih =>
    obtain ⟨state, hstep, h⟩ := foldlM_cons_ok h
    obtain ⟨next, hnext, rfl⟩ := enter_ok hstep
    obtain ⟨hbelow, hway⟩ := ih h
    obtain ⟨hp, hmove⟩ := follow_ok hnext
    have hp₁ : fs₁.node? p = some .folder := (enter_keeps h).2 p (node?_makeAt hp next)
    have habove : ¬ place <+: p := by
      intro hle
      rcases hmove with rfl | rfl | ⟨x, rfl⟩
      · exact hbelow hle
      · rcases List.eq_nil_or_concat p with rfl | ⟨front, x, rfl⟩
        · exact hbelow hle
        · rw [List.concat_eq_append] at hle hp₁ hbelow
          rw [List.dropLast_concat] at hbelow
          rcases List.prefix_concat_iff.1 hle with rfl | hle
          · exact hplace hp₁
          · exact hbelow hle
      · exact hbelow (hle.trans (List.prefix_append _ _))
    refine ⟨habove, ?_⟩
    rw [foldlM_cons_of_ok ((follow_congr hp (hlater p hp₁ habove) name).trans hnext)]
    exact hway

/-- Empty names and `.` do not matter on the way to a name. -/
theorem way_of_filter (h : ((names.filter fun p => p != "" && p != ".") ++ [name]).foldlM fs.follow p = .ok q) :
    (names ++ [name]).foldlM fs.follow p = .ok q := by
  induction names generalizing p with
  | nil => exact h
  | cons n names ih =>
    rw [List.filter_cons] at h
    split at h
    · obtain ⟨next, hnext, h⟩ := foldlM_cons_ok h
      rw [List.cons_append, foldlM_cons_of_ok hnext]
      exact ih h
    · next hstay =>
      have hp : fs.node? p = some .folder := by
        cases hnames : (names.filter fun p => p != "" && p != ".") ++ [name] with
        | nil => simp at hnames
        | cons n' rest =>
          rw [hnames] at h
          obtain ⟨next, hnext, -⟩ := foldlM_cons_ok h
          exact (follow_ok hnext).1
      have hsame : fs.follow p n = .ok p := by
        have hn : (n == "" || n == ".") = true := by
          simpa [bne, or_iff_not_imp_left] using hstay
        simp only [follow, hp, hn, if_true]
      rw [List.cons_append, foldlM_cons_of_ok hsame]
      exact ih h

/-! ## Written files -/

theorem makeFolders_ok {folder : String} (h : fs.makeFolders folder = .ok (fs₁, last)) :
    (Path.parts folder).foldlM enter (fs, fs.start folder) = .ok (fs₁, last) := by
  change (if Path.longestPath < folder.utf8ByteSize then _ else
    ((Path.parts folder).foldlM enter (fs, fs.start folder)).bind _) = Except.ok (fs₁, last) at h
  split at h
  · cases h
  · cases hmade : (Path.parts folder).foldlM enter (fs, fs.start folder) with
    | error e => rw [hmade] at h; cases h
    | ok made =>
      obtain ⟨fs₁, last⟩ := made
      rw [hmade] at h
      dsimp only [Except.bind] at h
      split at h
      · cases h
      · exact h

/-- What a successful write did: it made the folders, and put the file into the last one. -/
theorem write_ok {folder text : String} (h : fs.write folder name text = .ok fs') :
    ∃ fs₁ last place, (Path.parts folder).foldlM enter (fs, fs.start folder) = .ok (fs₁, last) ∧
      (Path.join folder name).utf8ByteSize ≤ Path.longestPath ∧ fs₁.follow last name = .ok place ∧
      fs₁.node? place ≠ some .folder ∧ fs' = fs₁.putAt place (some text) := by
  unfold write at h
  cases hmade : fs.makeFolders folder with
  | error e => rw [hmade] at h; cases h
  | ok made =>
    obtain ⟨fs₁, last⟩ := made
    simp only [hmade, bind, Except.bind] at h
    split at h
    · cases h
    · next hshort =>
      cases hplace : fs₁.follow last name with
      | error e => rw [hplace] at h; cases h
      | ok place =>
        simp only [hplace] at h
        split at h
        · cases h
        · next hfile =>
          cases h
          exact ⟨fs₁, last, place, makeFolders_ok hmade, by omega, hplace, hfile, rfl⟩

/-- Whether a text can be written does not depend on the text. -/
theorem write_error {folder text : String} {e : FileError} (h : fs.write folder name text = .error e) (text' : String) :
    fs.write folder name text' = .error e := by
  unfold write at h ⊢
  cases hmade : fs.makeFolders folder with
  | error e' => rw [hmade] at h; exact h
  | ok made =>
    obtain ⟨fs₁, last⟩ := made
    simp only [hmade, bind, Except.bind] at h ⊢
    split at h
    · next hlong => rwa [if_pos hlong]
    · next hshort =>
      rw [if_neg hshort]
      cases hplace : fs₁.follow last name with
      | error e' => rw [hplace] at h; exact h
      | ok place =>
        simp only [hplace] at h ⊢
        split at h
        · next hfile => rwa [if_pos hfile]
        · cases h

/-- A text is read back under the path that it was written to. -/
theorem read_of_write {folder text : String} (hname : Path.IsName name) (h : fs.write folder name text = .ok fs') :
    fs'.has (Path.join folder name) = true ∧ fs'.read (Path.join folder name) = .ok text := by
  obtain ⟨fs₁, last, place, hmade, hshort, hplace, hfile, rfl⟩ := write_ok h
  obtain rfl := follow_name hname hplace
  have hlast : ¬ last ++ [name] <+: last := fun hle => by
    have hlength := hle.length_le
    rw [List.length_append, List.length_singleton] at hlength
    omega
  have hlater : ∀ q, fs₁.node? q = some .folder → ¬ last ++ [name] <+: q →
      (fs₁.putAt (last ++ [name]) (some text)).node? q = some .folder := fun q hq hbelow =>
    node?_putAt_folder hq hbelow _
  obtain ⟨-, hway⟩ := way_of_enter hmade hfile hlast hlater
  have hfolder := (follow_ok hplace).1
  have hlocate : (fs₁.putAt (last ++ [name]) (some text)).locate (Path.join folder name) = .ok (last ++ [name]) := by
    obtain ⟨before, hnames, hbefore⟩ := Path.names_join folder hname
    have hstart : (fs₁.putAt (last ++ [name]) (some text)).start (Path.join folder name) = fs.start folder := by
      rw [Path.start_join _ hname, start, start]
      exact congrArg _ (enter_keeps hmade).1
    rw [locate, Path.join_ne_empty hname, if_neg (by simp), if_neg (by omega), hnames, hstart]
    refine way_of_filter ?_
    rw [hbefore, List.foldlM_append, hway]
    exact foldlM_cons_of_ok ((follow_congr hfolder (hlater last hfolder hlast) name).trans hplace)
  constructor
  · rw [has, hlocate]
    simp only [node?_putAt, Option.isSome_some]
  · rw [read, hlocate]
    simp only [bind, Except.bind, node?_putAt]

end Files
end SchemaAtlas
