import SchemaAtlas.Web.Address
/-!
# Endpoints as folders

An endpoint that can be a base has a path of segments, the last of which is empty (`getLast?_asFolder`),
and no other empty segments in front of it if it names a file (`dropEmpty_read`). So what is put in
place of the last segment stands behind the whole path, and stays as it is (`dropEmpty_behind`).
-/

namespace SchemaAtlas.Web

/-! ## Empty segments in front -/

theorem length_dropEmpty_le (names : List String) : (dropEmpty names).length ≤ names.length := by
  fun_induction dropEmpty names with
  | case1 s r ih => exact Nat.le_succ_of_le ih
  | case2 r => exact Nat.le_refl _

theorem dropEmpty_dropEmpty (names : List String) : dropEmpty (dropEmpty names) = dropEmpty names := by
  fun_induction dropEmpty names with
  | case1 s r ih => exact ih
  | case2 r h =>
    unfold dropEmpty
    split
    · next s r => exact absurd rfl (h s r)
    · rfl

theorem getLast?_dropEmpty (names : List String) : (dropEmpty names).getLast? = names.getLast? := by
  fun_induction dropEmpty names with
  | case1 s r ih => exact ih.trans List.getLast?_cons_cons.symm
  | case2 r => rfl

theorem dropEmpty_cons {name : String} (h : name ≠ "") (names : List String) :
    dropEmpty (name :: names) = name :: names := by
  cases names with
  | nil => simp [dropEmpty]
  | cons n names => simp [dropEmpty, h]

/-- The folders above an open end do not start with an empty segment, so what stands in place of the end
does not get lost. -/
theorem dropEmpty_behind {folders : List String} (hlast : folders.getLast? = some "")
    (hfixed : dropEmpty folders = folders) {name : String} (hname : name ≠ "") (names : List String) :
    dropEmpty (folders.dropLast ++ name :: names) = folders.dropLast ++ name :: names := by
  match folders, hlast with
  | [_], _ => exact dropEmpty_cons hname names
  | f :: g :: rest, _ =>
    have hf : f ≠ "" := by
      rintro rfl
      have hle := length_dropEmpty_le (g :: rest)
      rw [dropEmpty] at hfixed
      rw [hfixed] at hle
      simp only [List.length_cons] at hle
      omega
    simp only [List.dropLast_cons_cons, List.cons_append]
    exact dropEmpty_cons hf _

/-! ## Open ends -/

theorem enter_nil (above : List String) : enter above [] true = "" :: above := rfl

/-- An empty segment at the end leaves an open end. -/
theorem getLast?_resolve (above : List String) (segments : List (List Char)) :
    (resolve above (segments ++ [[]])).getLast? = some "" := by
  induction segments generalizing above with
  | nil => simp [resolve, enter_nil]
  | cons s segments ih => exact ih _

theorem getLast?_resolveFile (above : List String) (segments : List (List Char)) :
    (resolveFile above (segments ++ [[]])).names.getLast? = some "" := by
  induction segments generalizing above with
  | nil =>
    have hdrive : (above.isEmpty && isDrive []) = false := by simp [isDrive]
    have hsplit : (if above.isEmpty then splitDrive [] else none) = none := by split <;> rfl
    simp only [List.nil_append, resolveFile, hdrive, hsplit, List.isEmpty_nil, enter_nil, List.reverse_cons,
      Bool.false_eq_true, if_false, List.getLast?_append, List.getLast?_singleton, Option.some_or]
  | cons s segments ih =>
    rw [List.cons_append, resolveFile]
    split
    · exact getLast?_resolve _ segments
    · split
      · next drive s' _ => exact getLast?_resolve _ (s' :: segments)
      · exact ih _

theorem getLast?_resolveFor (scheme : String) (segments : List (List Char)) :
    (resolveFor scheme (segments ++ [[]])).names.getLast? = some "" := by
  unfold resolveFor
  split
  · exact (getLast?_dropEmpty _).trans (getLast?_resolveFile [] segments)
  · exact getLast?_resolve [] segments

theorem dropEmpty_resolveFor (segments : List (List Char)) :
    dropEmpty (resolveFor "file" segments).names = (resolveFor "file" segments).names :=
  dropEmpty_dropEmpty _

namespace Address

/-- An address that keeps its path when it is read as a file's: it has no empty segments in front. -/
def Settled (a : Address) : Prop := a.scheme = "file" → ∀ names, a.path = .segments names → dropEmpty names = names

theorem dropEmpty_readPath (cs : List Char) : dropEmpty (readPath "file" cs).names = (readPath "file" cs).names := by
  cases cs with
  | nil => rfl
  | cons c cs =>
    have hspecial : isSpecial "file" = true := by decide
    simp only [readPath, hspecial, Bool.not_true, Bool.and_false, Bool.false_eq_true, if_false]
    split <;> exact dropEmpty_resolveFor _

theorem settled_ofFile {host : Host} {route : Route} (h : dropEmpty route.names = route.names) :
    (ofFile host route).Settled := by
  rintro - names hnames
  obtain rfl : route.names = names := by simpa [ofFile] using hnames
  exact h

theorem settled_readFile {cs : List Char} {a : Address} (h : readFile cs = .ok a) : a.Settled := by
  unfold readFile at h
  split at h
  · split at h
    · dsimp only at h
      split at h
      · cases h
        exact settled_ofFile (dropEmpty_resolveFor _)
      · next r _ _ =>
        cases hhost : readFileHost (r.takeWhile (!endsAuthority true ·)) with
        | error e =>
          rw [hhost] at h
          cases h
        | ok host =>
          rw [hhost] at h
          cases h
          exact settled_ofFile (dropEmpty_readPath _)
    · cases h
      exact settled_ofFile (dropEmpty_readPath _)
  · cases h
    exact settled_ofFile (dropEmpty_readPath _)

/-- What is read has no empty segments in front, if it names a file. -/
theorem settled_read {s : String} {a : Address} (h : read s = .ok a) : a.Settled := by
  unfold read at h
  dsimp only at h
  split at h
  · cases h
  · next scheme rest _ =>
    by_cases hscheme : scheme = "file"
    · subst hscheme
      exact settled_readFile h
    · -- No other scheme becomes that of a file.
      have hne : a.scheme = scheme := by
        have located : ∀ cs, (readAuthority scheme cs >>= fun r =>
            pure (⟨scheme, some r.1, .segments (readPath scheme r.2).names⟩ : Address)) = .ok a → a.scheme = scheme := by
          intro cs h
          cases hread : readAuthority scheme cs with
          | error e =>
            rw [hread] at h
            cases h
          | ok r =>
            rw [hread] at h
            cases h
            rfl
        unfold readRest at h
        simp only [beq_iff_eq, hscheme, if_false] at h
        split at h
        · exact located _ h
        · split at h
          · exact located _ h
          · cases h
            rfl
          · cases h
            rfl
      exact fun hfile => absurd (hne.symm.trans hfile) hscheme

/-- A folder's path has an open end. -/
theorem getLast?_asFolder {a : Address} {folders : List String} (h : a.asFolder.path = .segments folders) :
    folders.getLast? = some "" := by
  unfold asFolder at h
  split at h
  · next hplain =>
    rw [hplain] at h
    cases h
  · next names hnames =>
    split at h
    · next hlast =>
      rw [hnames] at h
      cases h
      exact hlast
    · cases h
      exact getLast?_resolveFor _ _

theorem settled_asFolder {a : Address} (h : a.Settled) : a.asFolder.Settled := by
  unfold asFolder
  split
  · exact h
  · split
    · exact h
    · intro hfile names hnames
      cases hnames
      dsimp only at hfile ⊢
      rw [hfile]
      exact dropEmpty_resolveFor _

/-! ## Texts of paths -/

theorem pathText_append (names others : List String) :
    pathText (.segments (names ++ others)) = pathText (.segments names) ++ pathText (.segments others) := by
  simp [pathText, String.join_append]

end Address
end SchemaAtlas.Web
