import SchemaAtlas.Proofs.Service.Addresses
import SchemaAtlas.Proofs.Service.Outsiders
import SchemaAtlas.Proofs.Service.Saving
import SchemaAtlas.Proofs.Text.Utf8
import SchemaAtlas.Settings
/-!
# Keys that are the same on both sides

A client puts its key into a header as it is, and the service reads the header before it compares. What can
stand in a header is more than what is readable there: `sent_iff` says which requests go out, `authorizes_eq`
which of them are let through when both sides have the same key. So the service lets its own clients in exactly
if every byte of the key is a tab, a blank or visible ASCII (`matching_key_accepted_iff`), although settings and
preferences take any key.
-/

namespace SchemaAtlas

open Web

/-! ## What can stand in a header -/

namespace Web

/-- A byte of a header: a tab, or none of the control characters. -/
def IsHeaderByte (b : Nat) : Prop := b = 9 ∨ 32 ≤ b ∧ b ≠ 127

/-- A byte of a header that is readable as text: a tab, a blank or visible ASCII. -/
def IsPlainByte (b : Nat) : Prop := b = 9 ∨ 32 ≤ b ∧ b < 127

instance (b : Nat) : Decidable (IsHeaderByte b) := inferInstanceAs (Decidable (_ ∨ _))

instance (b : Nat) : Decidable (IsPlainByte b) := inferInstanceAs (Decidable (_ ∨ _))

theorem char_eq_tab_iff (c : Char) : c = '\t' ↔ c.toNat = 9 :=
  ⟨congrArg Char.toNat, fun h => Char.toNat_inj.1 h⟩

theorem isHeaderText_iff (key : String) : isHeaderText key = true ↔ ∀ b ∈ Text.bytes key.toList, IsHeaderByte b.toNat := by
  rw [Text.forall_mem_bytes_iff (p := IsHeaderByte) fun m n hm hn => by unfold IsHeaderByte; omega]
  simp [isHeaderText, IsHeaderByte, char_eq_tab_iff]

theorem isReadableHeader_iff (key : String) :
    isReadableHeader key = true ↔ ∀ b ∈ Text.bytes key.toList, IsPlainByte b.toNat := by
  rw [Text.forall_mem_bytes_iff (p := IsPlainByte) fun m n hm hn => by unfold IsPlainByte; omega]
  simp [isReadableHeader, IsPlainByte, char_eq_tab_iff]

/-- What is readable can stand in a header. -/
theorem isHeaderText_of_readable {key : String} (h : isReadableHeader key = true) : isHeaderText key = true := by
  rw [isHeaderText_iff]
  refine fun b hb => ((isReadableHeader_iff key).1 h b hb).imp_right fun hplain => ⟨hplain.1, ?_⟩
  omega

/-! ## What goes out -/

/-- The request goes out to the address: if it is answered there, the answer comes back. -/
def Sent (a : Address) (r : Request) : Prop :=
  ∀ (n : Network) (answer : Response), n a r = some answer → n.send a r = .ok answer

theorem sent_iff {a : Address} {r : Request} :
    Sent a r ↔ a.hostText.isEmpty = false ∧ (r.key.map isHeaderText).getD true = true ∧ isSendable a = true := by
  constructor
  · intro h
    have hanswered := h (fun _ _ => some ⟨200, none, ""⟩) _ rfl
    unfold Network.send at hanswered
    split at hanswered
    · cases hanswered
    split at hanswered
    · cases hanswered
    split at hanswered
    · cases hanswered
    simp_all
  · rintro ⟨hhost, hkey, haddress⟩ n answer hanswer
    simp [Network.send, hhost, hkey, haddress, hanswer]

/-- Where requests go out at all, a key has to be fit for a header. -/
theorem sent_key_iff {a : Address} {r : Request} {key : String} (hkey : r.key = some key) (ha : Sent a { r with key := none }) :
    Sent a r ↔ isHeaderText key = true := by
  obtain ⟨hhost, -, haddress⟩ := sent_iff.1 ha
  simp [sent_iff, hkey, hhost, haddress]

theorem send_badKey {a : Address} {r : Request} {key : String} (hkey : r.key = some key) (ha : Sent a { r with key := none })
    (hbad : isHeaderText key = false) (n : Network) : n.send a r = .error .badKey := by
  obtain ⟨hhost, -, -⟩ := sent_iff.1 ha
  simp [Network.send, hkey, hhost, hbad]

end Web

/-! ## The requests of a client -/

namespace Client

/-- A request that a client makes: for the document, or to save a table. -/
def Makes (c : Client) (a : Address) (r : Request) : Prop := r = c.fetchRequest a ∨ ∃ u, r = c.saveRequest a u

theorem Makes.key {c : Client} {a : Address} {r : Request} (h : c.Makes a r) : r.key = c.key := by
  rcases h with rfl | ⟨u, rfl⟩ <;> rfl

end Client

namespace Service

/-- The network in which a service answers whatever goes out. -/
def network (s : Service) (a : Arrival) : Network := fun _ r => (s.handle a r).1

section

variable {s : Service} {key : String} (hs : s.key = some key)
include hs

/-- With the key of the service, a request is let through exactly if the key is readable. -/
theorem authorizes_eq {r : Request} (hr : r.key = some key) : s.authorizes r = isReadableHeader key := by
  simp [authorizes, hs, hr]

/-- What a client gets that fetches with the key of the service. -/
theorem fetch_eq {c : Client} (hc : c.key = some key) {a : Address} (ha : c.schemaAddress = .ok a)
    (hroute : route? (Address.pathText a.path) = some .schema) (hsent : Sent a { c.fetchRequest a with key := none })
    {d : Document} (hd : s.store = some d) (arrival : Arrival) :
    c.fetch (s.network arrival) =
      if isReadableHeader key then .ok d
      else if isHeaderText key then .error (.status 401)
      else .error (.transport .badKey) := by
  have hkey : (c.fetchRequest a).key = some key := hc
  have hfetch : IsFetch (c.fetchRequest a) := ⟨rfl, hroute⟩
  have hreply : c.fetch (s.network arrival) =
      ((s.network arrival).send a (c.fetchRequest a)).mapError .transport >>= Client.readFetch := by
    simp only [Client.fetch, ha]
    rfl
  have hok : ∀ r, ((Except.ok r).mapError FetchError.transport >>= Client.readFetch) = Client.readFetch r := fun _ => rfl
  rw [hreply]
  cases hheader : isHeaderText key with
  | false =>
    have hread : isReadableHeader key = false := by
      by_contra h
      rw [isHeaderText_of_readable (by simpa using h)] at hheader
      cases hheader
    rw [send_badKey hkey hsent hheader, if_neg (by simp [hread]), if_neg (by simp)]
    rfl
  | true =>
    have hout := (sent_key_iff hkey hsent).2 hheader
    cases hread : isReadableHeader key with
    | true =>
      have hlet : s.authorizes (c.fetchRequest a) = true := (authorizes_eq hs hkey).trans hread
      have hanswer : s.network arrival a (c.fetchRequest a) = some (jsonResponse 200 d.toJson) := by
        rw [network, handle_of_task hd arrival (task_of_isFetch hfetch) hlet]
        rfl
      rw [hout _ _ hanswer, hok, readFetch_document, if_pos rfl]
    | false =>
      have hlet : s.authorizes (c.fetchRequest a) = false := (authorizes_eq hs hkey).trans hread
      have hanswer : s.network arrival a (c.fetchRequest a) = some unauthorized := by
        rw [network, handle_of_unauthorized hlet, denial, task_of_isFetch hfetch]
      rw [hout _ _ hanswer, hok, if_neg (by simp), if_pos rfl]
      rfl

end

/-- A client and a service with the same key. Where a request of the client would go out without a key, it goes out
with it exactly if no byte of the key is a control character other than a tab, and is let through exactly if all of
them are tabs, blanks or visible ASCII; so it is accepted exactly if they are. Otherwise the client learns that there
is something wrong with its key, or the service denies it without regard to the store and stays as it is. A client
that fetches gets the stored document, the status 401 or no answer accordingly. -/
theorem matching_key_accepted_iff {key : String} {c : Client} {s : Service} (hc : c.key = some key)
    (hs : s.key = some key) {a : Address} :
    (∀ r, c.Makes a r → Sent a { r with key := none } →
      (Sent a r ↔ ∀ b ∈ Text.bytes key.toList, IsHeaderByte b.toNat) ∧
      (s.authorizes r = true ↔ ∀ b ∈ Text.bytes key.toList, IsPlainByte b.toNat) ∧
      (Sent a r ∧ s.authorizes r = true ↔ ∀ b ∈ Text.bytes key.toList, IsPlainByte b.toNat) ∧
      (¬ Sent a r → ∀ n : Network, n.send a r = .error .badKey) ∧
      (s.authorizes r = false → ∀ arrival, s.handle arrival r = (some (denial r), s))) ∧
    (c.schemaAddress = .ok a → route? (Address.pathText a.path) = some .schema →
      Sent a { c.fetchRequest a with key := none } → ∀ d, s.store = some d → ∀ arrival,
      c.fetch (s.network arrival) =
        if isReadableHeader key then .ok d
        else if isHeaderText key then .error (.status 401)
        else .error (.transport .badKey)) := by
  constructor
  · intro r hr hsent
    have hkey : r.key = some key := hr.key.trans hc
    have hout := sent_key_iff hkey hsent
    have hlet := authorizes_eq hs hkey
    refine ⟨hout.trans (isHeaderText_iff key), by rw [hlet, isReadableHeader_iff], ?_, fun hno n => ?_,
      fun hno arrival => handle_of_unauthorized hno arrival⟩
    · rw [hout, hlet, ← isReadableHeader_iff]
      exact and_iff_right_of_imp isHeaderText_of_readable
    · rw [hout, Bool.not_eq_true] at hno
      exact send_badKey hkey hsent hno n
  · exact fun ha hroute hsent d hd arrival => fetch_eq hs hc ha hroute hsent hd arrival

/-- A key with blanks, a tab and signs lets the client in. -/
theorem matching_key_accepted_iff_signs :
    let d : Document := ⟨.ofList [("users", ⟨[⟨"id", "INT", true⟩], []⟩)], [], 3⟩
    let c : Client := { Client.loopback with key := some "open sesame\t~!" }
    let s : Service := { store := some d, key := some "open sesame\t~!" }
    let whole : Address := { c.base with path := .segments ["api", "schema"] }
    let place : Address := { c.base with path := .segments ["api", "table", "users"] }
    let r := c.saveRequest place ⟨"people", [], 3, []⟩
    c.schemaAddress = .ok whole ∧ c.Makes place r ∧ Sent place { r with key := none } ∧ Sent place r ∧
      s.authorizes r = true ∧ c.fetch (s.network ⟨"12:00", "7", "unknown"⟩) = .ok d := by
  intro d c s whole place r
  have haddress : c.schemaAddress = .ok whole := by decide +kernel
  have hmakes : c.Makes place r := .inr ⟨_, rfl⟩
  have hout : ∀ a r, isSendable a = true → a.hostText.isEmpty = false → r.key = none → Sent a r :=
    fun a r ha hhost hkey => sent_iff.2 ⟨hhost, by simp [hkey], ha⟩
  have hsent : Sent place { r with key := none } := hout _ _ (by decide +kernel) (by decide +kernel) rfl
  obtain ⟨hrequests, hfetch⟩ := matching_key_accepted_iff (c := c) (s := s) rfl rfl (a := whole)
  obtain ⟨-, -, hboth, -, -⟩ := (matching_key_accepted_iff (c := c) (s := s) rfl rfl).1 r hmakes hsent
  obtain ⟨hgone, hlet⟩ := hboth.2 (by decide +kernel)
  refine ⟨haddress, hmakes, hsent, hgone, hlet, ?_⟩
  rw [hfetch haddress (by decide +kernel) (hout _ _ (by decide +kernel) (by decide +kernel) rfl) d rfl _]
  exact if_pos (by decide +kernel)

/-- Settings take a key with an umlaut or a bell in it. A client and a service that both have it never come together:
the service denies the one, and the other does not go out. -/
theorem matching_key_refused :
    let d : Document := ⟨.ofList [("users", ⟨[⟨"id", "INT", true⟩], []⟩)], [], 3⟩
    let c (key : String) : Client := { Client.loopback with key := some key }
    let s (key : String) : Service := { store := some d, key := some key }
    let whole : Address := { Client.loopback.base with path := .segments ["api", "schema"] }
    let noon : Arrival := ⟨"12:00", "7", "unknown"⟩
    (Settings.parse "\x7b\"api_key\":\"schlüssel\"\x7d").toOption.map (·.apiKey) = some (some "schlüssel") ∧
      Sent whole ((c "schlüssel").fetchRequest whole) ∧ (s "schlüssel").authorizes ((c "schlüssel").fetchRequest whole) = false ∧
      (c "schlüssel").fetch ((s "schlüssel").network noon) = .error (.status 401) ∧
      (Settings.parse "\x7b\"api_key\":\"bell\\u0007\"\x7d").toOption.map (·.apiKey) = some (some "bell\x07") ∧
      ¬ Sent whole ((c "bell\x07").fetchRequest whole) ∧
      (c "bell\x07").fetch ((s "bell\x07").network noon) = .error (.transport .badKey) := by
  intro d c s whole noon
  have haddress : ∀ key, (c key).schemaAddress = .ok whole := by
    intro key
    have hbase : Client.loopback.schemaAddress = .ok whole := by decide +kernel
    exact hbase
  have hroute : route? (Address.pathText whole.path) = some .schema := by decide +kernel
  have hplain : ∀ key, Sent whole { (c key).fetchRequest whole with key := none } :=
    fun key => sent_iff.2 ⟨by decide +kernel, rfl, by decide +kernel⟩
  have hfetch := fun key => fetch_eq (s := s key) (c := c key) rfl rfl (haddress key) hroute (hplain key) rfl noon
  refine ⟨by decide +kernel, (sent_key_iff rfl (hplain _)).2 (by decide +kernel), by decide +kernel, ?_, by decide +kernel, ?_, ?_⟩
  · rw [hfetch, if_neg (by decide +kernel), if_pos (by decide +kernel)]
  · rw [sent_key_iff rfl (hplain _)]
    decide +kernel
  · rw [hfetch, if_neg (by decide +kernel), if_neg (by decide +kernel)]

end Service
end SchemaAtlas
