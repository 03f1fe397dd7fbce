import Mathlib.Data.List.Basic
import Mathlib.Data.List.TakeWhile
import SchemaAtlas.Client
import SchemaAtlas.Proofs.Web.Address
import SchemaAtlas.Proofs.Web.Percent
import SchemaAtlas.Service
/-!
# Where a client looks for a table

A client appends a table's name to its endpoint as one segment, and the service reads the name from
that segment again (`tableName_encode`, `route?_table`). Three kinds of names get lost on the way: `.` and `..`
are not appended, and tabs and line ends are passed over. All others have an address of their own, and
these have not: `table_address_iff`. `tables_share_address` shows two tables with one address.
-/

namespace SchemaAtlas

open Web Web.Address Text

/-! ## A segment read by the service -/

namespace Service

variable {special : Bool}

/-- What the service does not unescape before it divides a path. -/
def divides (c : Char) : Bool := c == '%' || c == '/'

/-- What would divide an address is escaped in a segment. -/
theorem inSegment_of_mem {c : Char} (h : c ∈ ['%', '/', '?', '#']) : Percent.inSegment special c = true := by
  simp only [List.mem_cons, List.not_mem_nil, or_false] at h
  rcases h with rfl | rfl | rfl | rfl <;> rfl

theorem ne_of_mem_encode {c d : Char} {cs : List Char} (hc : c ∈ Percent.encode (Percent.inSegment special) cs)
    (hd : d ∈ ['/', '?', '#']) : c ≠ d := by
  rintro rfl
  rcases Percent.mem_encode hc with ⟨hspecial, -⟩ | hdigit
  · rw [inSegment_of_mem (List.mem_cons_of_mem _ hd)] at hspecial
    cases hspecial
  · simp only [List.mem_cons, List.not_mem_nil, or_false] at hd
    rcases hd with rfl | rfl | rfl <;> exact absurd hdigit (by decide)

/-- The name of a table is what its segment was made of. -/
theorem tableName_encode {special : Char → Bool} (hpercent : special '%' = true) (cs : List Char) :
    tableName (Percent.encode special cs) = String.ofList cs := by
  rw [tableName, Percent.decode_encode hpercent, lossy_bytes]

/-- A path is made readable: only what would divide it stays escaped. -/
theorem bytes_readable (cs : List Char) :
    Percent.decodeWhere (fun b => b ≠ 37 && b ≠ 47 && b ≠ 43) (bytes (Percent.encode (Percent.inSegment special) cs)) =
      bytes (Percent.encode divides cs) := by
  rw [Percent.decodeWhere_encode rfl, Percent.encode, bytes, List.flatMap_assoc]
  refine List.flatMap_congr fun c _ => ?_
  by_cases hc : divides c = true
  · simp only [divides, Bool.or_eq_true, beq_iff_eq] at hc
    rcases hc with rfl | rfl <;> rfl
  · have hbytes : [c].flatMap String.utf8EncodeChar = String.utf8EncodeChar c := List.append_nil _
    simp only [hc, Bool.false_eq_true, if_false, hbytes, ite_eq_right_iff]
    intro hspecial
    -- No byte of the character is one that stays escaped.
    have hread : ∀ b ∈ String.utf8EncodeChar c, (b ≠ 37 && b ≠ 47 && b ≠ 43) = true := by
      intro b hb
      rcases of_mem_utf8EncodeChar hb with heq | hge
      · have hback : Char.ofNat b.toNat = c := by rw [heq, Char.ofNat_toNat]
        simp only [Bool.and_eq_true, decide_eq_true_eq]
        refine ⟨⟨?_, ?_⟩, ?_⟩ <;> rintro rfl
        · exact hc (by rw [← hback]; rfl)
        · exact hc (by rw [← hback]; rfl)
        · rw [← hback] at hspecial
          cases special <;> exact absurd hspecial (by decide)
      · have hne : ∀ n : UInt8, n.toNat < 128 → b ≠ n := fun n hn h => by rw [h] at hge; omega
        simp [hne]
    calc (String.utf8EncodeChar c).flatMap (fun b => if (b ≠ 37 && b ≠ 47 && b ≠ 43) = true then [b] else bytes (Percent.escape b))
        = (String.utf8EncodeChar c).flatMap (fun b => [b]) :=
          List.flatMap_congr fun b hb => if_pos (hread b hb)
      _ = String.utf8EncodeChar c := List.flatMap_singleton' _

/-- A target that is a path only is read whole. -/
theorem targetPath_eq {target : String} (hslash : target.toList.head? = some '/')
    (hends : ∀ c ∈ target.toList, endsPath c = false) : targetPath target = target.toList := by
  rw [targetPath, if_pos hslash]
  exact List.takeWhile_eq_self_iff.2 fun c hc => by rw [hends c hc]; rfl

/-- The path of a table's segment leads to this table, and an empty segment to none. -/
theorem route?_table (cs : List Char) :
    route? ("/api/table/" ++ String.ofList (Percent.encode (Percent.inSegment special) cs)) =
      if cs = [] then none else some (.table (String.ofList cs)) := by
  have hpath : targetPath ("/api/table/" ++ String.ofList (Percent.encode (Percent.inSegment special) cs)) =
      "/api/table/".toList ++ Percent.encode (Percent.inSegment special) cs := by
    have hlist : ("/api/table/" ++ String.ofList (Percent.encode (Percent.inSegment special) cs)).toList =
        "/api/table/".toList ++ Percent.encode (Percent.inSegment special) cs :=
      String.toList_append.trans (congrArg ("/api/table/".toList ++ ·) String.toList_ofList)
    rw [← hlist]
    refine targetPath_eq (by rw [hlist]; rfl) fun c hc => ?_
    rw [hlist, List.mem_append] at hc
    rcases hc with hc | hc
    · have hplain : "/api/table/".toList.all (!endsPath ·) = true := by decide
      simpa only [Bool.not_eq_true'] using List.all_eq_true.1 hplain c hc
    · simp [endsPath, ne_of_mem_encode hc (d := '?') (by decide), ne_of_mem_encode hc (d := '#') (by decide)]
  have hreadable : readable (targetPath ("/api/table/" ++ String.ofList (Percent.encode (Percent.inSegment special) cs))) =
      "/api/table/".toList ++ Percent.encode divides cs := by
    rw [hpath, readable, bytes_append, Percent.decodeWhere_append (by decide), bytes_readable, ← bytes_append, lossy_bytes]
  have hdivided : ∀ c ∈ Percent.encode divides cs, c ≠ '/' := by
    rintro c hc rfl
    rcases Percent.mem_encode hc with ⟨hc, -⟩ | hc
    · cases hc
    · revert hc
      decide
  have hname : tableName (Percent.encode divides cs) = String.ofList cs := tableName_encode rfl cs
  have hnil : Percent.encode divides cs = [] ↔ cs = [] := Percent.encode_eq_nil_iff
  rw [route?, hreadable]
  generalize Percent.encode divides cs = segment at hdivided hname hnil
  cases segment with
  | nil =>
    rw [if_pos (hnil.1 rfl)]
    decide
  | cons d ds =>
    have hcs : cs ≠ [] := fun h => nomatch hnil.2 h
    have hslash : (d :: ds).contains '/' = false := by
      rw [← Bool.not_eq_true, List.contains_iff_mem]
      exact fun h => hdivided _ h rfl
    rw [if_neg hcs, ← hname]
    have hdrop : dropStart? "/api/table/".toList ("/api/table/".toList ++ d :: ds) = some (d :: ds) := rfl
    have hschema : "/api/table/".toList ++ d :: ds ≠ "/api/schema".toList := by
      intro h
      cases (List.cons.inj (List.append_cancel_left (show "/api/".toList ++ _ = "/api/".toList ++ _ from h))).1
    simp only [hdrop, hschema, if_false, hslash, Bool.false_eq_true]

end Service

/-! ## A client's addresses -/

/-- Names that stand in an address as they are. -/
def Addressable (name : String) : Prop :=
  name ≠ "." ∧ name ≠ ".." ∧ ∀ c ∈ name.toList, isPassedOver c = false

instance : DecidablePred Addressable := fun name =>
  decidable_of_iff (name ≠ "." ∧ name ≠ ".." ∧ name.toList.all (!isPassedOver ·) = true)
    (by simp only [Addressable, List.all_eq_true, Bool.not_eq_true'])

namespace Client

/-- What stands in place of an endpoint's open end, for a table. -/
def tableTail (special : Bool) (table : String) : List String :=
  let kept := table.toList.filter (!isPassedOver ·)
  if table = "." ∨ table = ".." then ["api", "table"]
  else if kept = ['.'] then ["api", "table", ""]
  else if kept = ['.', '.'] then ["api", ""]
  else ["api", "table", String.ofList (Percent.encode (Percent.inSegment special) kept)]

theorem pathText_table (name : String) : pathText (.segments ["api", "table", name]) = "/api/table/" ++ name := by
  rw [← String.toList_inj]
  simp [pathText, String.join]

/-- A table's segment is all that its address adds to the folder of tables. Without one, the address is
no table's. -/
theorem pathText_tableTail (special : Bool) (table : String) :
    (¬ Addressable table ∧ pathText (.segments (tableTail special table)) ∈ ["/api/table", "/api/"]) ∨
    ∃ cs, pathText (.segments (tableTail special table)) =
        "/api/table/" ++ String.ofList (Percent.encode (Percent.inSegment special) cs) ∧
      (Addressable table ↔ table = String.ofList cs) := by
  have hkept : Addressable table → table.toList.filter (!isPassedOver ·) = table.toList := fun h =>
    List.filter_eq_self.2 fun c hc => by rw [h.2.2 c hc]; rfl
  unfold tableTail
  dsimp only
  split_ifs with hdot hone htwo
  · refine .inl ⟨fun h => ?_, by decide⟩
    rcases hdot with rfl | rfl
    · exact h.1 rfl
    · exact h.2.1 rfl
  · rw [not_or] at hdot
    have hne : ¬ Addressable table := fun h => hdot.1 (String.toList_inj.1 ((hkept h).symm.trans hone))
    refine .inr ⟨[], pathText_table _, fun h => absurd h hne, ?_⟩
    rintro rfl
    cases hone
  · rw [not_or] at hdot
    exact .inl ⟨fun h => hdot.2 (String.toList_inj.1 ((hkept h).symm.trans htwo)), by decide⟩
  · rw [not_or] at hdot
    refine .inr ⟨_, pathText_table _, fun h => ?_, fun h => ⟨hdot.1, hdot.2, fun c hc => ?_⟩⟩
    · rw [hkept h, String.ofList_toList]
    · rw [h, String.toList_ofList, List.mem_filter] at hc
      simpa using hc.2

/-- A name that can be addressed stands in its segment whole. -/
theorem tableTail_of_addressable (special : Bool) {table : String} (h : Addressable table) :
    tableTail special table =
      ["api", "table", String.ofList (Percent.encode (Percent.inSegment special) table.toList)] := by
  have hkept : table.toList.filter (!isPassedOver ·) = table.toList :=
    List.filter_eq_self.2 fun c hc => by rw [h.2.2 c hc]; rfl
  have hone : table.toList ≠ ['.'] := fun heq => h.1 (String.toList_inj.1 heq)
  have htwo : table.toList ≠ ['.', '.'] := fun heq => h.2.1 (String.toList_inj.1 heq)
  simp only [tableTail, hkept, h.1, h.2.1, hone, htwo, or_self, if_false]

variable {endpoint : String} {key : Option String} {c : Client} {folders : List String}

/-- A client's endpoint is a folder. -/
theorem base_of_new (hc : Client.new endpoint key = .ok c) : ∃ a : Address, a.Settled ∧ c.base = a.asFolder := by
  unfold Client.new at hc
  cases hread : Address.read (Text.trim endpoint) with
  | error e =>
    rw [hread] at hc
    cases hc
  | ok a =>
    rw [hread] at hc
    cases hc
    exact ⟨a, settled_read hread, rfl⟩

/-- A table's address replaces the open end of the endpoint. -/
theorem tableAddress_eq (hc : Client.new endpoint key = .ok c) (hbase : c.base.path = .segments folders)
    (table : String) :
    c.tableAddress table =
      .ok { c.base with path := .segments (folders.dropLast ++ tableTail (isSpecial c.base.scheme) table) } := by
  obtain ⟨a, ha, hfolder⟩ := base_of_new hc
  have hlast : folders.getLast? = some "" := getLast?_asFolder (hfolder ▸ hbase)
  have hstays : ∀ names, (if c.base.scheme == "file" then dropEmpty (folders.dropLast ++ "api" :: names)
      else folders.dropLast ++ "api" :: names) = folders.dropLast ++ "api" :: names := by
    intro names
    split
    · next hfile =>
      have hfixed : dropEmpty folders = folders := by
        have hsettled := settled_asFolder ha
        rw [← hfolder] at hsettled
        exact hsettled (by simpa using hfile) _ hbase
      exact dropEmpty_behind hlast hfixed (by decide) names
    · rfl
  have hcontinued : c.base.continueWith ["api", "table"] =
      .ok { c.base with path := .segments (folders.dropLast ++ ["api", "table"]) } := by
    simp only [continueWith, hbase]
  have hpush : ({ c.base with path := .segments (folders.dropLast ++ ["api", "table"]) } : Address).push table =
      { c.base with path := .segments (folders.dropLast ++ tableTail (isSpecial c.base.scheme) table) } := by
    have hup : (folders.dropLast ++ ["api", "table"]).dropLast = folders.dropLast ++ ["api"] := by
      rw [List.dropLast_append_of_ne_nil (by decide)]
      rfl
    simp only [push, tableTail, Bool.or_eq_true, beq_iff_eq (a := table)]
    by_cases hdot : table = "." ∨ table = ".."
    · simp only [hdot, if_true]
    by_cases hone : table.toList.filter (!isPassedOver ·) = ['.']
    · simp only [hdot, hone, if_true, if_false, List.append_assoc, List.cons_append, List.nil_append, hstays]
    by_cases htwo : table.toList.filter (!isPassedOver ·) = ['.', '.']
    · have hne : ['.', '.'] ≠ ['.'] := by decide
      simp only [hdot, htwo, hne, hup, if_true, if_false, List.append_assoc, List.cons_append, List.nil_append, hstays]
    · simp only [hdot, hone, htwo, if_false, List.append_assoc, List.cons_append, List.nil_append, hstays]
  rw [tableAddress, hcontinued]
  exact congrArg Except.ok hpush

/-- What stands in front of a table's segment is the same for all tables. -/
theorem text_table (a : Address) (above : List String) :
    ∃ front, ∀ name, Address.text { a with path := .segments (above ++ ["api", "table", name]) } = front ++ name := by
  have hpath : ∀ name, pathText (.segments (above ++ ["api", "table", name])) =
      pathText (.segments above) ++ "/api/table/" ++ name := fun name => by
    rw [pathText_append, pathText_table, String.append_assoc]
  have hfront : ∃ front, ∀ name, Address.text { a with path := .segments (above ++ ["api", "table", name]) } =
      front ++ pathText (.segments (above ++ ["api", "table", name])) := by
    cases hauthority : a.authority with
    | some w => exact ⟨a.scheme ++ ":" ++ authorityText w, fun name => rfl⟩
    | none =>
      cases above with
      | nil => exact ⟨a.scheme ++ ":" ++ "", fun name => rfl⟩
      | cons folder below =>
        -- A path that starts with an empty segment is kept apart from the scheme.
        refine ⟨a.scheme ++ ":" ++ if folder = "" then "/." else "", fun name => ?_⟩
        obtain ⟨next, rest, hrest⟩ : ∃ next rest, below ++ ["api", "table", name] = next :: rest :=
          List.exists_cons_of_ne_nil (by simp)
        rw [List.cons_append, hrest, Address.text]
        split_ifs with hempty
        · subst hempty
          rfl
        · dsimp only
          split
          · next h => cases h
          · next h =>
            cases h
            exact absurd rfl hempty
          · rfl
  obtain ⟨front, hfront⟩ := hfront
  exact ⟨front ++ (pathText (.segments above) ++ "/api/table/"), fun name => by
    rw [hfront, hpath, ← String.append_assoc]⟩

/-- The path of a folder ends with a slash. -/
theorem pathText_folder (hlast : folders.getLast? = some "") :
    pathText (.segments folders) = pathText (.segments folders.dropLast) ++ "/" := by
  have hsplit : folders = folders.dropLast ++ [""] := (List.dropLast_append_getLast? "" hlast).symm
  conv_lhs => rw [hsplit, pathText_append]
  rfl

/-- One segment stands behind the folder of tables, with the table's name, exactly for names that can be
addressed. -/
theorem exists_segment_iff (hlast : folders.getLast? = some "") (special : Bool) (table : String) :
    (∃ segment : List Char, '/' ∉ segment ∧ Service.tableName segment = table ∧
      pathText (.segments (folders.dropLast ++ tableTail special table)) =
        pathText (.segments folders) ++ "api/table/" ++ String.ofList segment) ↔ Addressable table := by
  have hsegment : ∀ segment, pathText (.segments (folders.dropLast ++ tableTail special table)) =
        pathText (.segments folders) ++ "api/table/" ++ String.ofList segment ↔
      pathText (.segments (tableTail special table)) = "/api/table/" ++ String.ofList segment := fun segment => by
    have hslash : "/" ++ ("api/table/" ++ String.ofList segment) = "/api/table/" ++ String.ofList segment :=
      String.append_assoc.symm
    rw [pathText_append, pathText_folder hlast, String.append_assoc, String.append_assoc, hslash,
      String.append_right_inj]
  simp only [hsegment]
  rcases pathText_tableTail special table with ⟨hnot, hshort⟩ | ⟨cs, htail, hiff⟩
  · refine ⟨?_, fun h => absurd h hnot⟩
    rintro ⟨segment, -, -, h⟩
    have hlength := congrArg String.length h
    rw [String.length_append] at hlength
    have hlt : ∀ text ∈ ["/api/table", "/api/"], text.length < "/api/table/".length := by decide
    exact absurd (hlt _ hshort) (by omega)
  · rw [hiff]
    constructor
    · rintro ⟨segment, -, hname, h⟩
      rw [htail, String.append_right_inj, String.ofList_inj] at h
      rw [← hname, ← h, Service.tableName_encode rfl]
    · rintro rfl
      exact ⟨_, fun h => Service.ne_of_mem_encode h (List.mem_cons_self ..) rfl, Service.tableName_encode rfl cs, htail⟩

/-- Addresses of names that can be addressed are written alike for one name only. -/
theorem text_tableTail_inj (a : Address) (above : List String) {special : Bool} {table other : String}
    (htable : Addressable table) (hother : Addressable other)
    (h : Address.text { a with path := .segments (above ++ tableTail special other) } =
      Address.text { a with path := .segments (above ++ tableTail special table) }) : other = table := by
  obtain ⟨front, hfront⟩ := text_table a above
  rw [tableTail_of_addressable special htable, tableTail_of_addressable special hother, hfront, hfront,
    String.append_right_inj, String.ofList_inj] at h
  have hname := congrArg Service.tableName h
  rw [Service.tableName_encode rfl, Service.tableName_encode rfl, String.ofList_toList, String.ofList_toList] at hname
  exact hname

/-- The route of what stands in place of an endpoint's open end. -/
theorem route?_tableTail (special : Bool) (table : String) :
    Service.route? (pathText (.segments (tableTail special table))) = some (.table table) ↔
      Addressable table ∧ table ≠ "" := by
  rcases pathText_tableTail special table with ⟨hnot, hshort⟩ | ⟨cs, htail, hiff⟩
  · have hroute : ∀ text ∈ ["/api/table", "/api/"], Service.route? text = none := by decide +kernel
    simp [hroute _ hshort, hnot]
  · rw [htail, Service.route?_table, hiff]
    by_cases hcs : cs = []
    · simp [hcs]
    · have hne : String.ofList cs ≠ "" := fun h => hcs (String.ofList_inj.1 h)
      simp only [hcs, if_false, Option.some.injEq, Service.Route.table.injEq]
      constructor
      · rintro rfl
        exact ⟨rfl, hne⟩
      · exact fun h => h.1.symm

/-- The address of a table is below the client's endpoint. One segment of it holds the table's name, and
leads a service at the root of its host to this table, exactly if the name can be addressed (and is not
empty, for the service). Names that can be addressed have addresses of their own. -/
theorem table_address_iff (hc : Client.new endpoint key = .ok c) (hbase : c.base.path = .segments folders)
    (table : String) :
    ∃ a, c.tableAddress table = .ok a ∧ a.scheme = c.base.scheme ∧ a.authority = c.base.authority ∧
      ((∃ segment : List Char, '/' ∉ segment ∧ Service.tableName segment = table ∧
        pathText a.path = pathText c.base.path ++ "api/table/" ++ String.ofList segment) ↔ Addressable table) ∧
      (Addressable table → ∀ other b, Addressable other → c.tableAddress other = .ok b → b.text = a.text →
        other = table) ∧
      (pathText c.base.path = "/" →
        (Service.route? (pathText a.path) = some (.table table) ↔ Addressable table ∧ table ≠ "")) := by
  obtain ⟨a, -, hfolder⟩ := base_of_new hc
  have hlast : folders.getLast? = some "" := getLast?_asFolder (hfolder ▸ hbase)
  rw [hbase]
  refine ⟨_, tableAddress_eq hc hbase table, rfl, rfl, exists_segment_iff hlast _ table, ?_, fun hroot => ?_⟩
  · intro htable other b hother hb htext
    rw [tableAddress_eq hc hbase other] at hb
    cases hb
    exact text_tableTail_inj c.base _ htable hother htext
  · have habove : pathText (.segments folders.dropLast) = "" := by
      rw [pathText_folder hlast] at hroot
      exact (String.append_left_inj "/").1 hroot
    dsimp only
    rw [pathText_append, habove, String.empty_append]
    exact route?_tableTail _ table

/-- A client of the machine it runs on. -/
def loopback : Client :=
  ⟨⟨"http", some { host := .ipv6 [0, 0, 0, 0, 0, 0, 0, 1], port := some 5000 }, .segments [""]⟩, none⟩

theorem new_loopback : Client.new "http://[::1]:5000" none = .ok loopback := by decide +kernel

/-- A table whose name has a slash is found at the root of its host. -/
theorem table_address_iff_slashed :
    Client.new "http://[::1]:5000" none = .ok loopback ∧ loopback.base.path = .segments [""] ∧
      ∃ a, loopback.tableAddress "50%/ü" = .ok a ∧ Service.route? (pathText a.path) = some (.table "50%/ü") := by
  obtain ⟨a, ha, -, -, -, -, hroute⟩ := table_address_iff new_loopback rfl "50%/ü"
  exact ⟨new_loopback, rfl, a, ha, (hroute (by decide)).2 (by decide)⟩

/-- Names that differ by a tab have one address. -/
theorem tables_share_address :
    Client.new "http://[::1]:5000" none = .ok loopback ∧
      loopback.tableAddress "a\tb" = loopback.tableAddress "ab" ∧ "a\tb" ≠ "ab" :=
  ⟨new_loopback, by decide +kernel, by decide⟩

end Client
end SchemaAtlas
