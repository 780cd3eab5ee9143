import ChainRpc.Http.Transport
import ChainRpc.Proofs.Checked
import ChainRpc.Proofs.Entries
import ChainRpc.Proofs.Text.Utf8

/-!
# The caller's headers over the own ones

The caller's headers take the place of the headers that every post has, where their names are written
alike. On the line names are the same without regard to case. So an own header whose name the caller
writes in another case goes out twice, with the caller's value and with the own one.
-/

namespace ChainRpc.Http.Headers

open Checked (bind_eq_ok_iff map_eq_ok_iff mapError_eq_ok_iff)
open Url (lowerAscii)

variable {given : Entries Value} {token : Option Text} {h d : Text × Value}

/-! ### Names without regard to case -/

/-- Each header has one value: no two have the same name without regard to case. -/
def OneValueEach (headers : Entries Value) : Prop :=
  (headers.map fun h => lowerAscii h.1).Nodup

/-- Where the caller names an own header, it is written as there. -/
def SpelledAlike (own given : Entries Value) : Prop :=
  ∀ h ∈ given, ∀ d ∈ own, lowerAscii h.1 = lowerAscii d.1 → h.1 = d.1

/-- The caller's headers override the own ones: each header has one value, the caller's are all there, and
an own one is there just where it is given too or the caller has no header of its name. -/
structure Overrides (own given merged : Entries Value) : Prop where
  oneValueEach : OneValueEach merged
  keeps_given : ∀ h ∈ given,
    h ∈ merged ∧ ∀ other ∈ merged, lowerAscii other.1 = lowerAscii h.1 → other = h
  keeps_own_iff : ∀ d ∈ own,
    d ∈ merged ↔ d ∈ given ∨ ∀ h ∈ given, lowerAscii h.1 ≠ lowerAscii d.1
  given_or_own : ∀ h ∈ merged, h ∈ given ∨ h ∈ own

lemma OneValueEach.nodup_names (hgiven : OneValueEach given) : given.names.Nodup := by
  refine List.Nodup.of_map lowerAscii ?_
  rw [Entries.names, List.map_map]
  exact hgiven

lemma OneValueEach.eq_of_lowerAscii (hgiven : OneValueEach given) (hh : h ∈ given) (hd : d ∈ given)
    (heq : lowerAscii h.1 = lowerAscii d.1) : h = d :=
  List.inj_on_of_nodup_map hgiven hh hd heq

/-! ### Merging -/

/-- The headers that say that JSON is carried and accepted. -/
def json : Entries Value :=
  [("Content-Type", .str "application/json"), ("Accept", .str "application/json")]

/-- The header that carries a token. -/
def bearer (token : Text) : Entries Value :=
  [("Authorization", .str ("Bearer " ++ token))]

/-- The headers that every post has. One of them carries the token, unless it is empty. -/
def ownOf : (token : Option Text) → Entries Value
  | none | some [] => json
  | some t         => json ++ bearer t

/-- A token as the caller gives it. -/
def tokenValue : Option Text → Value
  | none   => .null
  | some t => .str t

/-- Headers whose names are texts. -/
def ofEntries (entries : Entries Value) : Headers :=
  entries.map fun e => (.str e.1, e.2)

lemma put_ofEntries (name : Text) (value : Value) (entries : Entries Value) :
    (ofEntries entries).put (.str name) value = ofEntries (entries.put name value) := by
  induction entries with
  | nil => rfl
  | cons e rest ih =>
    obtain ⟨key, old⟩ := e
    by_cases hkey : key = name
    · simp [ofEntries, put, Entries.put, hkey]
    · simpa [ofEntries, put, Entries.put, hkey] using ih

lemma putAll_ofEntries (entries further : Entries Value) :
    (ofEntries entries).putAll (ofEntries further) = ofEntries (entries.putAll further) := by
  induction further generalizing entries with
  | nil => rfl
  | cons e rest ih =>
    change ((ofEntries entries).put (.str e.1) e.2).putAll (ofEntries rest) = _
    rw [put_ofEntries, ih]
    rfl

lemma build_dict (given : Entries Value) (token : Option Text) :
    build (.dict given) (tokenValue token) = .ok (ofEntries ((ownOf token).putAll given)) := by
  rw [← putAll_ofEntries]
  rcases token with - | - | ⟨c, t⟩ <;> rfl

lemma oneValueEach_ownOf (token : Option Text) : OneValueEach (ownOf token) := by
  rcases token with - | - | ⟨c, t⟩ <;> simp [OneValueEach, ownOf, json, bearer] <;> decide

/-- In what is merged an own header stands unless the caller writes its name. -/
lemma mem_merged_iff (hgiven : OneValueEach given) :
    h ∈ (ownOf token).putAll given ↔ h ∈ given ∨ h ∈ ownOf token ∧ h.1 ∉ given.names :=
  Entries.mem_putAll_iff (oneValueEach_ownOf token).nodup_names hgiven.nodup_names

lemma oneValueEach_merged_iff (hgiven : OneValueEach given) :
    OneValueEach ((ownOf token).putAll given) ↔ SpelledAlike (ownOf token) given := by
  have hnames : ((ownOf token).putAll given).Nodup :=
    .of_map _ (Entries.nodup_putAll (oneValueEach_ownOf token).nodup_names)
  rw [OneValueEach, List.nodup_map_iff_inj_on hnames]
  constructor
  · intro hinj h hh d hd heq
    by_contra hne
    -- The caller does not write the own name, since it writes the header's name otherwise.
    have hnot : d.1 ∉ given.names := by
      intro hmem
      obtain ⟨other, hother, hname⟩ := List.mem_map.mp hmem
      have hsame : h = other := hgiven.eq_of_lowerAscii hh hother (by rw [hname, heq])
      exact hne (by rw [hsame, hname])
    have hboth : h = d :=
      hinj h ((mem_merged_iff hgiven).mpr (.inl hh)) d ((mem_merged_iff hgiven).mpr (.inr ⟨hd, hnot⟩)) heq
    exact hne (congrArg Prod.fst hboth)
  · intro halike h hh d hd heq
    rw [mem_merged_iff hgiven] at hh hd
    rcases hh with hh | ⟨hh, hnot⟩ <;> rcases hd with hd | ⟨hd, hnot'⟩
    · exact hgiven.eq_of_lowerAscii hh hd heq
    · exact absurd (halike h hh d hd heq ▸ List.mem_map_of_mem hh) hnot'
    · exact absurd (halike d hd h hh heq.symm ▸ List.mem_map_of_mem hd) hnot
    · exact (oneValueEach_ownOf token).eq_of_lowerAscii hh hd heq

lemma overrides_merged_iff (hgiven : OneValueEach given) :
    Overrides (ownOf token) given ((ownOf token).putAll given) ↔ SpelledAlike (ownOf token) given := by
  rw [← oneValueEach_merged_iff hgiven]
  constructor
  · exact Overrides.oneValueEach
  · intro hone
    have halike := (oneValueEach_merged_iff hgiven).mp hone
    refine ⟨hone, ?_, ?_, ?_⟩
    · intro h hh
      have hmem : h ∈ (ownOf token).putAll given := (mem_merged_iff hgiven).mpr (.inl hh)
      exact ⟨hmem, fun other hother heq => hone.eq_of_lowerAscii hother hmem heq⟩
    · intro d hd
      rw [mem_merged_iff hgiven]
      refine or_congr_right ⟨?_, ?_⟩
      · rintro ⟨-, hnot⟩ h hh heq
        exact hnot (halike h hh d hd heq ▸ List.mem_map_of_mem hh)
      · intro hnone
        refine ⟨hd, fun hmem => ?_⟩
        obtain ⟨h, hh, hname⟩ := List.mem_map.mp hmem
        exact hnone h hh (by rw [hname])
    · intro h hh
      exact ((mem_merged_iff hgiven).mp hh).imp_right And.left

/-! ### On the line -/

namespace Fields

/-- Each field has one value: no two have the same name without regard to case. -/
def OneValueEach (fields : Fields) : Prop :=
  (fields.map fun f => foldCase f.1).Nodup

variable {fields further : Fields} {name : Text} {value : Bytes}

lemma oneValueEach_append_new (hone : OneValueEach fields) (hnew : fields.has name = false) :
    OneValueEach (fields ++ [(bytes name, value)]) := by
  rw [OneValueEach, List.map_append, List.nodup_append]
  refine ⟨hone, List.nodup_singleton _, ?_⟩
  rintro _ hold _ hlast rfl
  obtain ⟨f, hf, hname⟩ := List.mem_map.mp hold
  have hsame : fields.has name := List.any_eq_true.mpr ⟨f, hf, by
    simpa [sameName, hname] using List.mem_singleton.mp hlast⟩
  simp [hnew] at hsame

lemma oneValueEach_putNew (hone : OneValueEach fields) : OneValueEach (fields.putNew name value) := by
  unfold putNew
  split
  · exact hone
  · next hnew => exact oneValueEach_append_new hone (by simpa using hnew)

lemma oneValueEach_replace (hone : OneValueEach fields) : OneValueEach (fields.replace name value) := by
  apply oneValueEach_append_new
  · exact hone.sublist (List.filter_sublist.map _)
  · simp [has]

/-- The second fields are the first ones with further ones, each of a new name. -/
structure Extends (fields further : Fields) : Prop where
  sublist : fields.Sublist further
  oneValueEach : OneValueEach fields → OneValueEach further

lemma Extends.refl (fields : Fields) : Extends fields fields :=
  ⟨.refl fields, id⟩

lemma Extends.trans {last : Fields} (h : Extends fields further) (h' : Extends further last) :
    Extends fields last :=
  ⟨h.sublist.trans h'.sublist, h'.oneValueEach ∘ h.oneValueEach⟩

lemma extends_putNew (fields : Fields) (name : Text) (value : Bytes) :
    Extends fields (fields.putNew name value) := by
  refine ⟨?_, oneValueEach_putNew⟩
  unfold putNew
  split
  · exact .refl fields
  · exact List.sublist_append_left fields _

/-! ### Names in ASCII -/

lemma notAscii?_eq_none_iff (start : Nat) : notAscii? start name = none ↔ ∀ c ∈ name, c < 0x80 := by
  induction name generalizing start with
  | nil => simp [notAscii?]
  | cons c rest ih =>
    rw [notAscii?, List.forall_mem_cons, ← ih (start + 1)]
    split
    · next hc => simp [Nat.not_lt.mpr hc]
    · next hc => simp [Nat.lt_of_not_le hc]

lemma asciiBytes_eq_ok_iff : asciiBytes name = .ok value ↔ (∀ c ∈ name, c < 0x80) ∧ bytes name = value := by
  rw [← notAscii?_eq_none_iff 0, asciiBytes]
  cases notAscii? 0 name <;> simp [bytes]

lemma toNat_ofNat_ascii {c : CodePoint} (hc : c < 0x80) : (UInt8.ofNat c).toNat = c :=
  Utf8.toNat_ofNat_of_lt (Nat.lt_trans hc (by decide))

lemma bytes_inj {t t' : Text} (ht : ∀ c ∈ t, c < 0x80) (ht' : ∀ c ∈ t', c < 0x80)
    (heq : bytes t = bytes t') : t = t' := by
  have hback {u : Text} (hu : ∀ c ∈ u, c < 0x80) : (bytes u).map UInt8.toNat = u := by
    rw [bytes, List.map_map]
    exact (List.map_congr_left fun c hc => toNat_ofNat_ascii (hu c hc)).trans (List.map_id u)
  rw [← hback ht, heq, hback ht']

lemma foldCase_bytes (hname : ∀ c ∈ name, c < 0x80) : foldCase (bytes name) = bytes (lowerAscii name) := by
  simp only [foldCase, bytes, lowerAscii, List.map_map]
  refine List.map_congr_left fun c hc => ?_
  have hbyte : 65 ≤ UInt8.ofNat c ∧ UInt8.ofNat c ≤ 90 ↔ CodePoint.Between c 65 90 := by
    simp [UInt8.le_iff_toNat_le, toNat_ofNat_ascii (hname c hc)]
  by_cases hupper : CodePoint.Between c 65 90
  · simp only [Function.comp_apply, if_pos hupper, if_pos (hbyte.mpr hupper), UInt8.ofNat_add]
    rfl
  · simp only [Function.comp_apply, if_neg hupper, if_neg (mt hbyte.mp hupper)]

lemma lowerAscii_lt (hname : ∀ c ∈ name, c < 0x80) : ∀ c ∈ lowerAscii name, c < 0x80 := by
  refine List.forall_mem_map.mpr fun c hc => ?_
  have := hname c hc
  split
  · lia
  · exact this

end Fields

lemma names_of_encode {entries : Entries Value} {fields : Fields}
    (h : encode (ofEntries entries) = .ok fields) :
    (∀ e ∈ entries, ∀ c ∈ e.1, c < 0x80) ∧ fields.map (·.1) = entries.map fun e => Fields.bytes e.1 := by
  induction entries generalizing fields with
  | nil =>
    cases h
    exact ⟨nofun, rfl⟩
  | cons e rest ih =>
    rw [encode, ofEntries, List.map_cons, List.mapM_cons] at h
    obtain ⟨field, hfield, h⟩ := bind_eq_ok_iff.mp h
    obtain ⟨later, hlater, h⟩ := bind_eq_ok_iff.mp h
    obtain ⟨name, hname, hfield⟩ := bind_eq_ok_iff.mp hfield
    obtain ⟨value, -, hfield⟩ := bind_eq_ok_iff.mp hfield
    cases h
    cases hfield
    obtain ⟨hascii, rfl⟩ := Fields.asciiBytes_eq_ok_iff.mp (mapError_eq_ok_iff.mp hname)
    obtain ⟨hrest, hnames⟩ := ih hlater
    exact ⟨List.forall_mem_cons.mpr ⟨hascii, hrest⟩, congrArg (_ :: ·) hnames⟩

/-- Headers keep their names on the line, so they have one value each there just where they have here. -/
lemma oneValueEach_encode_iff {entries : Entries Value} {fields : Fields}
    (h : encode (ofEntries entries) = .ok fields) : Fields.OneValueEach fields ↔ OneValueEach entries := by
  obtain ⟨hascii, hnames⟩ := names_of_encode h
  have hfolded : (fields.map fun f => Fields.foldCase f.1) =
      (entries.map fun e => lowerAscii e.1).map Fields.bytes := by
    calc fields.map (fun f => Fields.foldCase f.1)
        = (fields.map (·.1)).map Fields.foldCase := (List.map_map ..).symm
      _ = entries.map (fun e => Fields.foldCase (Fields.bytes e.1)) := by rw [hnames, List.map_map]; rfl
      _ = entries.map (fun e => Fields.bytes (lowerAscii e.1)) :=
        List.map_congr_left fun e he => Fields.foldCase_bytes (hascii e he)
      _ = (entries.map fun e => lowerAscii e.1).map Fields.bytes := (List.map_map ..).symm
  have hinj : ∀ t ∈ entries.map fun e => lowerAscii e.1, ∀ c ∈ t, c < 0x80 :=
    List.forall_mem_map.mpr fun e he => Fields.lowerAscii_lt (hascii e he)
  rw [Fields.OneValueEach, hfolded, OneValueEach]
  refine ⟨.of_map _, fun hn => hn.map_on fun t ht u hu heq => ?_⟩
  exact Fields.bytes_inj (hinj t ht) (hinj u hu) heq

/-! ### In a post -/

lemma extends_automatic (said : List (Text × Text)) (fields : Fields) :
    fields.Extends (said.foldl (fun fs e => fs.putNew e.1 (Fields.bytes e.2)) fields) := by
  induction said generalizing fields with
  | nil => exact .refl fields
  | cons e rest ih => exact (Fields.extends_putNew fields e.1 _).trans (ih _)

lemma extends_withHost {url : Url} {fields further : Fields} (h : Post.withHost url fields = .ok further) :
    fields.Extends further := by
  unfold Post.withHost at h
  split at h
  · cases h
    exact .refl fields
  · obtain ⟨value, -, rfl⟩ := map_eq_ok_iff.mp h
    exact Fields.extends_putNew fields _ value

lemma extends_withLength (body : Bytes) (fields : Fields) :
    fields.Extends (Post.withLength body fields) := by
  unfold Post.withLength
  split
  · exact .refl fields
  · exact Fields.extends_putNew fields _ _

/-- A post says more than the caller's headers under new names; only a user in its URL takes the place of what
was said. -/
lemma fields_of_build {url : Url} {fields : Fields} {body : Bytes} {post : Post}
    (h : Post.build url fields body = .ok post) :
    ∃ further, fields.Extends further ∧ post.fields = Post.withUser post.url further := by
  obtain ⟨hosted, hhosted, h⟩ := bind_eq_ok_iff.mp h
  cases h
  exact ⟨_, ((extends_automatic _ fields).trans (extends_withHost hhosted)).trans
    (extends_withLength body hosted), rfl⟩

lemma oneValueEach_withUser {url : Url} {fields : Fields} (hone : fields.OneValueEach) :
    Fields.OneValueEach (Post.withUser url fields) := by
  unfold Post.withUser
  split
  split
  · exact hone
  · exact Fields.oneValueEach_replace hone

lemma withUser_of_no_user {url : Url} (hurl : url.credentials = ([], [])) (fields : Fields) :
    Post.withUser url fields = fields := by
  simp [Post.withUser, hurl]

lemma oneValueEach_post {entries : Entries Value} {endpoint : Endpoint} {body : Bytes} {post : Post}
    (hheaders : endpoint.headers = ofEntries entries) (hpost : endpoint.prepare body = .ok post) :
    (OneValueEach entries → Fields.OneValueEach post.fields) ∧
      (post.url.credentials = ([], []) → Fields.OneValueEach post.fields → OneValueEach entries) := by
  unfold Endpoint.prepare at hpost
  split at hpost
  case h_4 url hurl =>
    rw [hheaders] at hpost
    split at hpost
    case h_1 => cases hpost
    case h_2 fields hfields =>
      obtain ⟨further, hfurther, hsaid⟩ := fields_of_build (mapError_eq_ok_iff.mp hpost)
      rw [← oneValueEach_encode_iff hfields, hsaid]
      constructor
      · intro hone
        exact oneValueEach_withUser (hfurther.oneValueEach hone)
      · intro huser hone
        rw [withUser_of_no_user huser] at hone
        exact hone.sublist (hfurther.sublist.map _)
  all_goals cases hpost

/-- The caller's headers are merged over the own ones, which stand unless the caller writes their names. They
override exactly if the caller writes the names of own headers as they are written there. Then each post
gives each field one value; otherwise a post gives some field two, unless a user in the URL has its place. -/
theorem callers_headers_override_iff (given : Entries Value) (token : Option Text)
    (hgiven : OneValueEach given) :
    ∃ merged, build (.dict given) (tokenValue token) = .ok (ofEntries merged) ∧
      (∀ h, h ∈ merged ↔ h ∈ given ∨ h ∈ ownOf token ∧ h.1 ∉ given.names) ∧
      (Overrides (ownOf token) given merged ↔ SpelledAlike (ownOf token) given) ∧
      ∀ endpoint body post, endpoint.headers = ofEntries merged → Endpoint.prepare endpoint body = .ok post →
        (SpelledAlike (ownOf token) given → Fields.OneValueEach post.fields) ∧
        (post.url.credentials = ([], []) → Fields.OneValueEach post.fields →
          SpelledAlike (ownOf token) given) := by
  refine ⟨_, build_dict given token, fun h => mem_merged_iff hgiven, overrides_merged_iff hgiven, ?_⟩
  intro endpoint body post hheaders hpost
  rw [← oneValueEach_merged_iff hgiven]
  exact oneValueEach_post hheaders hpost

/-- A token goes out with a caller's `Accept` in the place of the own one. -/
theorem callers_headers_override_iff_accept :
    let given : Entries Value := [("Accept", .str "*/*"), ("x-api-key", .str "k")]
    OneValueEach given ∧ ∃ merged, build (.dict given) (.str "t") = .ok (ofEntries merged) ∧
      Overrides (ownOf (some ("t" : String))) given merged := by
  intro given
  have hgiven : OneValueEach given := by
    unfold OneValueEach
    decide
  have halike : SpelledAlike (ownOf (some ("t" : String))) given := by
    unfold SpelledAlike
    decide
  obtain ⟨merged, hbuild, -, hoverrides, -⟩ := callers_headers_override_iff given (some ("t" : String)) hgiven
  exact ⟨hgiven, merged, hbuild, hoverrides.mpr halike⟩

/-- An authorization of the caller that is written in lower case does not override the one that carries the
token: both are there. -/
theorem not_overrides_authorization :
    let given : Entries Value := [("authorization", .str "Basic dTpw")]
    let merged := (ownOf (some ("t" : String))).putAll given
    OneValueEach given ∧ build (.dict given) (.str "t") = .ok (ofEntries merged) ∧
      merged.get? "Authorization" = some (.str "Bearer t") ∧
      merged.get? "authorization" = some (.str "Basic dTpw") ∧
      ¬ Overrides (ownOf (some ("t" : String))) given merged := by
  intro given merged
  have hgiven : OneValueEach given := by
    unfold OneValueEach
    decide
  have hnot : ¬ OneValueEach merged := by
    unfold OneValueEach
    decide
  exact ⟨hgiven, build_dict given (some ("t" : String)), rfl, rfl, fun h => hnot h.oneValueEach⟩

end ChainRpc.Http.Headers
