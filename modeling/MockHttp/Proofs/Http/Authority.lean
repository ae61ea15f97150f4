import MockHttp.Http.Header
import MockHttp.Http.Uri

/-! # What authorities are made of

The authority of a URL that can be dialled holds no blank and no control character, so it is a
legal header value.
-/

namespace MockHttp

def IsVisible (c : Char) : Prop := 0x20 < c.toNat ∧ c.toNat < 0x7F

instance (c : Char) : Decidable (IsVisible c) := inferInstanceAs (Decidable (_ ∧ _))

theorem isVisible_of_between {c low high : Char} (h : low.val ≤ c.val ∧ c.val ≤ high.val)
    (hlow : 0x20 < low.val) (hhigh : high.val < 0x7F) : IsVisible c :=
  ⟨UInt32.lt_of_lt_of_le hlow h.1, UInt32.lt_of_le_of_lt h.2 hhigh⟩

theorem isVisible_of_isAlphanum {c : Char} (h : c.isAlphanum = true) : IsVisible c := by
  rcases Bool.or_eq_true_iff.mp h with h | h
  · rcases Bool.or_eq_true_iff.mp h with h | h
    · have hupper : 'A'.val ≤ c.val ∧ c.val ≤ 'Z'.val := of_decide_eq_true h
      exact isVisible_of_between hupper (by decide) (by decide)
    · obtain ⟨hle, hge⟩ := Bool.and_eq_true_iff.mp h
      have hlower : 'a'.val ≤ c.val ∧ c.val ≤ 'z'.val :=
        ⟨of_decide_eq_true hle, of_decide_eq_true hge⟩
      exact isVisible_of_between hlower (by decide) (by decide)
  · have hdigit := Char.isDigit_iff_toNat.mp h
    exact isVisible_of_between hdigit (by decide) (by decide)

namespace Uri

theorem isVisible_of_isAuthorityChar {c : Char} (h : isAuthorityChar c = true) : IsVisible c := by
  rcases Bool.or_eq_true_iff.mp h with h | h
  · exact isVisible_of_isAlphanum h
  · have hall : "!$&'()*+,-.;=_~".toList.all (IsVisible ·) = true := by decide
    exact of_decide_eq_true (List.all_eq_true.mp hall c (List.contains_iff_mem.mp h))

theorem isVisible_of_step {s s' : AuthorityScan} {c : Char} (h : s.step c = some s') :
    IsVisible c := by
  have hsigns : [':', '[', ']', '@', '%'].all (IsVisible ·) = true := by decide
  by_cases hc : c ∈ [':', '[', ']', '@', '%']
  · exact of_decide_eq_true (List.all_eq_true.mp hsigns c hc)
  · simp only [List.mem_cons, List.not_mem_nil, or_false, not_or] at hc
    obtain ⟨h1, h2, h3, h4, h5⟩ := hc
    simp only [AuthorityScan.step, h1, h2, h3, h4, h5, if_false] at h
    split at h
    · next hname => exact isVisible_of_isAuthorityChar hname
    · cases h

theorem isVisible_of_foldlM {cs : List Char} {s s' : AuthorityScan}
    (h : cs.foldlM AuthorityScan.step s = some s') : ∀ c ∈ cs, IsVisible c := by
  induction cs generalizing s with
  | nil => simp
  | cons c cs ih =>
    rw [List.foldlM_cons] at h
    obtain ⟨t, hstep, hrest⟩ := Option.bind_eq_some_iff.mp h
    intro d hd
    rcases List.mem_cons.mp hd with rfl | hd
    · exact isVisible_of_step hstep
    · exact ih hrest d hd

theorem isVisible_of_isAuthority {cs : List Char} (h : isAuthority cs = true) :
    ∀ c ∈ cs, IsVisible c := by
  unfold isAuthority at h
  split at h
  · next hscan => exact isVisible_of_foldlM hscan
  · cases h

theorem isAuthority_of_ofChars? {cs authority : List Char} {uri : Uri}
    (h : ofChars? cs = some uri) (ha : uri.authority = some authority) :
    isAuthority authority = true := by
  unfold ofChars? at h
  split at h
  · cases h
  split at h
  · cases h
    cases ha
  split at h
  · obtain ⟨p, -, rfl⟩ := Option.map_eq_some_iff.mp h
    cases ha
  split at h
  · cases h
  · split at h
    · next hauth =>
      cases h
      cases ha
      exact hauth
    · cases h
  · dsimp only at h
    split at h
    · next hauth =>
      obtain ⟨p, -, rfl⟩ := Option.map_eq_some_iff.mp h
      cases ha
      exact hauth.2
    · cases h

theorem isAuthority_of_dialled {url address authority : String}
    (h : dialled? url = some (address, authority)) : isAuthority authority.toList = true := by
  unfold dialled? at h
  obtain ⟨uri, huri, h⟩ := Option.bind_eq_some_iff.mp h
  obtain ⟨cs, hcs, h⟩ := Option.bind_eq_some_iff.mp h
  cases h
  rw [String.toList_ofList]
  exact isAuthority_of_ofChars? huri hcs

end Uri

theorem isHeaderValue_bytes {s : String} (h : ∀ c ∈ s.toList, IsVisible c) :
    IsHeaderValue (Text.bytes s) := by
  unfold IsHeaderValue Text.bytes Utf8.encode
  rw [List.all_eq_true]
  intro b hb
  obtain ⟨c, hc, hb⟩ := List.mem_flatMap.mp hb
  obtain ⟨hlow, hhigh⟩ := h c hc
  have hencode : String.utf8EncodeChar c = [UInt8.ofNat c.toNat] := by
    have hle : c.toNat ≤ 0x7F := Nat.le_of_lt hhigh
    simp [String.utf8EncodeChar, Nat.not_lt.mpr hle]
  rw [hencode, List.mem_singleton] at hb
  have hnat : b.toNat = c.toNat := by
    rw [hb, UInt8.toNat_ofNat_of_lt' (Nat.lt_trans hhigh (by decide))]
  have hspace : 0x20 ≤ b := UInt8.le_iff_toNat_le.mpr (by rw [hnat]; exact Nat.le_of_lt hlow)
  have hdelete : b ≠ 0x7F := by
    rintro rfl
    exact Nat.lt_irrefl _ (hnat ▸ hhigh)
  simp [isHeaderByte, hspace, hdelete]

end MockHttp
