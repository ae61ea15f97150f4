import MockHttp.Proofs.Control.Agreement

/-! # Where a client turns to

An authority is a host with a port behind it and user information in front, both of which may be
left out. A client dials the host and the port, and it shows the authority as the host of its
requests. The port is the one that is written only if its text is a number of 16 bits, and the host
is shown without user information only if there is none.
-/

namespace MockHttp

namespace Text

theorem takeWhile_append_of_not_mem {a : Char} {cs : List Char} (h : a ∉ cs)
    (rest : List Char) :
    (cs ++ rest).takeWhile (· ≠ a) = cs ++ rest.takeWhile (· ≠ a) := by
  refine List.takeWhile_append_of_pos fun c hc => ?_
  rw [decide_eq_true_eq]
  rintro rfl
  exact h hc

theorem takeWhile_reverse_append {a : Char} {cs : List Char} (h : a ∉ cs) (before : List Char) :
    ((before ++ cs).reverse.takeWhile (· ≠ a)).reverse =
      (before.reverse.takeWhile (· ≠ a)).reverse ++ cs := by
  rw [List.reverse_append, takeWhile_append_of_not_mem (by rwa [List.mem_reverse]),
    List.reverse_append, List.reverse_reverse]

theorem takeWhile_reverse_of_not_mem {a : Char} {cs : List Char} (h : a ∉ cs) :
    (cs.reverse.takeWhile (· ≠ a)).reverse = cs :=
  takeWhile_reverse_append h []

theorem takeWhile_reverse_append_cons {a : Char} {cs : List Char} (h : a ∉ cs)
    (before : List Char) : ((before ++ a :: cs).reverse.takeWhile (· ≠ a)).reverse = cs := by
  have hmark : ((before ++ [a]).reverse.takeWhile (· ≠ a)).reverse = [] := by simp
  rw [List.append_cons, takeWhile_reverse_append h, hmark, List.nil_append]

end Text

theorem Digits.unsigned?_eq_none_of_mem {bound : Nat} {c : Char} {cs : List Char} (h : c ∈ cs)
    (hdigit : c.isDigit = false) (hplus : c ≠ '+') : unsigned? bound cs = none := by
  rw [Option.eq_none_iff_forall_ne_some]
  intro n hn
  have hdigits : ∀ {ds}, number? ds = some n → c ∉ ds := by
    intro ds hds hc
    exact Bool.false_ne_true (hdigit.symm.trans ((number?_eq_some_iff.mp hds).2.1 c hc))
  obtain ⟨-, hnumber | ⟨digits, rfl, hnumber⟩⟩ := unsigned?_eq_some_iff.mp hn
  · exact hdigits hnumber h
  · rcases List.mem_cons.mp h with heq | h
    · exact hplus heq
    · exact hdigits hnumber h

namespace Uri

/-- An address in brackets, or a name. -/
inductive IsHost : List Char → Prop where
  | bracketed {cs : List Char} : '@' ∉ cs → ']' ∉ cs → IsHost ('[' :: (cs ++ [']']))
  | plain {cs : List Char} : '@' ∉ cs → ':' ∉ cs → cs.head? ≠ some '[' → IsHost cs

theorem IsHost.not_mem {host : List Char} (h : IsHost host) : '@' ∉ host := by
  cases h with
  | bracketed hcs hclosed => simp [hcs]
  | plain hcs hcolon hopen => exact hcs

def withPort (host : List Char) (port : Option (List Char)) : List Char :=
  host ++ port.elim [] (':' :: ·)

/-- The authority consists of user information, a host and the text of a port. -/
structure HasParts (authority : List Char) (userInfo : Option (List Char)) (host : List Char)
    (port : Option (List Char)) : Prop where
  eq : authority = userInfo.elim [] (· ++ ['@']) ++ withPort host port
  isHost : IsHost host
  isPort : ∀ text, port = some text → '@' ∉ text ∧ ':' ∉ text

/-- The address and the host that such a URL names: without a port it is 80, and a text that is not
a number of 16 bits names none. -/
def named? (host : List Char) : Option (List Char) → Option (String × String)
  | none => some (String.ofList (withPort host (some ['8', '0'])), String.ofList host)
  | some text => (Digits.unsigned? 65536 text).map fun n =>
    (String.ofList (withPort host (some (Digits.ofNat n))),
      String.ofList (withPort host (some text)))

variable {authority host : List Char} {userInfo port : Option (List Char)}

theorem HasParts.not_mem (h : HasParts authority userInfo host port) :
    '@' ∉ withPort host port := by
  unfold withPort
  cases port with
  | none => simpa using h.isHost.not_mem
  | some text => simp [h.isHost.not_mem, (h.isPort text rfl).1]

theorem HasParts.hostAndPort_eq (h : HasParts authority userInfo host port) :
    hostAndPort authority = withPort host port := by
  unfold hostAndPort
  rw [h.eq]
  cases userInfo with
  | none => exact Text.takeWhile_reverse_of_not_mem h.not_mem
  | some u =>
    rw [Option.elim_some, List.append_assoc, List.singleton_append]
    exact Text.takeWhile_reverse_append_cons h.not_mem u

theorem HasParts.hostOf_eq (h : HasParts authority userInfo host port) :
    hostOf authority = host := by
  unfold hostOf
  dsimp only
  rw [h.hostAndPort_eq]
  unfold withPort
  cases h.isHost with
  | @bracketed cs hcs hclosed =>
    have hcut : ']' ∉ '[' :: cs := List.not_mem_cons_of_ne_of_not_mem (by decide) hclosed
    rw [← List.cons_append, List.append_assoc, Text.takeWhile_append_of_not_mem hcut]
    simp
  | plain hcs hcolon hopen =>
    have hhead : (host ++ port.elim [] (':' :: ·)).head? ≠ some '[' := by
      cases host with
      | nil => cases port <;> simp
      | cons c cs => exact hopen
    rw [if_neg hhead, Text.takeWhile_append_of_not_mem hcolon]
    cases port <;> simp

theorem HasParts.portOf?_eq (h : HasParts authority userInfo host port) :
    portOf? authority = port.bind (Digits.unsigned? 65536) := by
  unfold portOf?
  rw [h.eq]
  unfold withPort
  cases port with
  | some text =>
    have htext := (h.isPort text rfl).2
    rw [Option.elim_some, ← List.append_assoc, if_pos (by simp),
      Text.takeWhile_reverse_append_cons htext]
    rfl
  | none =>
    rw [Option.elim_none, List.append_nil, Option.bind_none]
    cases h.isHost with
    | @bracketed cs hcs hclosed =>
      refine ite_eq_right_iff.mpr fun _ => ?_
      have hlast : ']' ∈ (((userInfo.elim [] (· ++ ['@']) ++ '[' :: cs) ++ [']']).reverse.takeWhile
          (· ≠ ':')).reverse := by
        rw [Text.takeWhile_reverse_append (by decide)]
        simp
      rw [List.append_assoc] at hlast
      exact Digits.unsigned?_eq_none_of_mem hlast (by decide) (by decide)
    | plain hcs hcolon hopen =>
      cases userInfo with
      | none => exact if_neg hcolon
      | some u =>
        refine ite_eq_right_iff.mpr fun _ => ?_
        have hat : '@' ∈ ((u ++ '@' :: host).reverse.takeWhile (· ≠ ':')).reverse := by
          rw [Text.takeWhile_reverse_append (by simp [hcolon])]
          simp
        rw [Option.elim_some, List.append_assoc, List.singleton_append]
        exact Digits.unsigned?_eq_none_of_mem hat (by decide) (by decide)

/-! ## Which authorities consist of such parts -/

theorem exists_userInfo (cs : List Char) :
    ∃ (userInfo : Option (List Char)) (rest : List Char),
      cs = userInfo.elim [] (· ++ ['@']) ++ rest ∧ '@' ∉ rest := by
  induction cs with
  | nil => exact ⟨none, [], rfl, List.not_mem_nil⟩
  | cons c cs ih =>
    obtain ⟨_ | u, rest, heq, hrest⟩ := ih
    · by_cases hc : c = '@'
      · exact ⟨some [], rest, by rw [hc, heq]; rfl, hrest⟩
      · refine ⟨none, c :: rest, by rw [heq]; rfl, ?_⟩
        exact List.not_mem_cons_of_ne_of_not_mem (Ne.symm hc) hrest
    · exact ⟨some (c :: u), rest, by rw [heq]; rfl, hrest⟩

theorem colons_step {s s' : AuthorityScan} {c : Char} (h : s.step c = some s')
    (hopened : s.opened = false) (hc : c ≠ '[') : s'.opened = false ∧
      s'.colons = if c = '@' then 0 else s.colons + if c = ':' then 1 else 0 := by
  unfold AuthorityScan.step at h
  grind

theorem colons_foldlM {cs : List Char} {s s' : AuthorityScan}
    (h : cs.foldlM AuthorityScan.step s = some s') (hopened : s.opened = false)
    (hbracket : '[' ∉ cs) :
    s'.opened = false ∧ ('@' ∉ cs → s'.colons = s.colons + cs.count ':') := by
  induction cs generalizing s with
  | nil =>
    cases h
    exact ⟨hopened, fun _ => rfl⟩
  | cons c cs ih =>
    rw [List.foldlM_cons] at h
    obtain ⟨t, hstep, hrest⟩ := Option.bind_eq_some_iff.mp h
    obtain ⟨htopened, htcolons⟩ :=
      colons_step hstep hopened (List.ne_of_not_mem_cons hbracket).symm
    obtain ⟨hopened', hcolons⟩ := ih hrest htopened (List.not_mem_of_not_mem_cons hbracket)
    refine ⟨hopened', fun hat => ?_⟩
    rw [hcolons (List.not_mem_of_not_mem_cons hat), htcolons,
      if_neg (List.ne_of_not_mem_cons hat).symm, List.count_cons]
    simp only [beq_iff_eq]
    omega

theorem fresh_userInfo {s : AuthorityScan}
    (h : (userInfo.elim [] (· ++ ['@'])).foldlM AuthorityScan.step {} = some s)
    (hbracket : '[' ∉ userInfo.elim [] (· ++ ['@'])) : s.opened = false ∧ s.colons = 0 := by
  cases userInfo with
  | none =>
    cases h
    exact ⟨rfl, rfl⟩
  | some u =>
    rw [Option.elim_some] at h hbracket
    rw [List.foldlM_append] at h
    obtain ⟨t, hu, hat⟩ := Option.bind_eq_some_iff.mp h
    have hopened := (colons_foldlM hu rfl fun hmem => hbracket (List.mem_append_left _ hmem)).1
    cases hat
    exact ⟨hopened, rfl⟩

/-- An authority without brackets is made of them. -/
theorem exists_hasParts (h : isAuthority authority = true) (hbracket : '[' ∉ authority) :
    ∃ userInfo host port, HasParts authority userInfo host port := by
  obtain ⟨userInfo, rest, rfl, hat⟩ := exists_userInfo authority
  have hopen : '[' ∉ rest := fun hmem => hbracket (List.mem_append_right _ hmem)
  have hcount : rest.count ':' ≤ 1 := by
    unfold isAuthority at h
    split at h
    · next s hscan =>
      rw [List.foldlM_append] at hscan
      obtain ⟨t, huser, hrest⟩ := Option.bind_eq_some_iff.mp hscan
      obtain ⟨hopened, hcolons⟩ := fresh_userInfo huser fun hmem =>
        hbracket (List.mem_append_left _ hmem)
      have hcount := (colons_foldlM hrest hopened hopen).2 hat
      rw [hcolons, Nat.zero_add] at hcount
      simp only [AuthorityScan.accepts, Bool.and_eq_true, decide_eq_true_eq] at h
      omega
    · cases h
  by_cases hcolon : ':' ∈ rest
  · obtain ⟨host, text, rfl, hhost⟩ := List.eq_append_cons_of_mem hcolon
    have htext : ':' ∉ text := by
      rw [List.count_append, List.count_cons_self] at hcount
      exact List.not_mem_of_count_eq_zero (by omega)
    simp only [List.mem_append, List.mem_cons, not_or] at hat hopen
    refine ⟨userInfo, host, some text, rfl, .plain hat.1 hhost ?_, ?_⟩
    · exact fun hhead => hopen.1 (List.mem_of_mem_head? hhead)
    · intro _ heq
      cases heq
      exact ⟨hat.2.2, htext⟩
  · refine ⟨userInfo, rest, none, by simp [withPort], .plain hat hcolon ?_, by simp⟩
    exact fun hhead => hopen (List.mem_of_mem_head? hhead)

/-! ## The address and the host -/

variable {url : String} {uri : Uri}

/-- What is dialled: port 80 stands in for a port that is left out or cannot be read. -/
theorem HasParts.dialled?_eq (h : HasParts authority userInfo host port)
    (huri : ofText? url = some uri) (hauthority : uri.authority = some authority) :
    dialled? url = some
      (String.ofList (withPort host
        (some (Digits.ofNat ((port.bind (Digits.unsigned? 65536)).getD 80)))),
        String.ofList authority) := by
  simp only [dialled?, huri, hauthority, h.hostOf_eq, h.portOf?_eq, Option.bind_eq_bind,
    Option.bind_some]
  rfl

theorem HasParts.authority_eq_iff (h : HasParts authority userInfo host port) :
    authority = withPort host port ↔ userInfo = none := by
  rw [h.eq]
  cases userInfo with
  | none => simp
  | some u =>
    rw [Option.elim_some, List.append_assoc, ← List.append_assoc, List.append_left_eq_self]
    simp

/-- The address and the host that the URL names are taken if there is no user information and the
port can be read. -/
theorem HasParts.dialled?_eq_named?_iff (h : HasParts authority userInfo host port)
    (huri : ofText? url = some uri) (hauthority : uri.authority = some authority) :
    dialled? url = named? host port ↔
      userInfo = none ∧ ∀ text, port = some text → (Digits.unsigned? 65536 text).isSome := by
  rw [h.dialled?_eq huri hauthority, ← h.authority_eq_iff]
  cases port with
  | none =>
    have hport : Digits.ofNat 80 = ['8', '0'] := rfl
    simp [named?, withPort, hport, String.ofList_inj]
  | some text =>
    cases hread : Digits.unsigned? 65536 text with
    | none => simp [named?, hread]
    | some n => simp [named?, hread, String.ofList_inj]

end Uri

namespace Control

theorem host_of_post {authority target : String} {json : Option (List Char)} {out : Outgoing}
    (h : Outgoing.post authority target json = .ok out) :
    out.headers.head? = some (HeaderName.host, Text.bytes authority) := by
  unfold Outgoing.post at h
  dsimp only at h
  split at h
  · cases h
  · split at h
    · cases h
    · cases h
      cases json <;> rfl

theorem Client.host_of_request {client : Client} {command : Command} {address authority : String}
    (h : Uri.dialled? client.url = some (address, authority)) :
    ∃ out, client.request command = .ok (address, out) ∧
      out.headers.head? = some (HeaderName.host, Text.bytes authority) := by
  have hhost := isHeaderValue_bytes
    (Uri.isVisible_of_isAuthority (Uri.isAuthority_of_dialled h))
  obtain ⟨out, hpost, -⟩ := post_eq_ok command.target.2 command.target.1.ofText?_path hhost
  refine ⟨out, ?_, host_of_post hpost⟩
  simp only [Client.request, h, hpost]

/-- A client dials the host and shows it as the URL names them, unless user information comes along
or port 80 stands in for a port that cannot be read. -/
theorem Client.dials_named_address_iff {url : String} {uri : Uri} {authority : List Char}
    (huri : Uri.ofText? url = some uri) (hauthority : uri.authority = some authority) :
    ('[' ∉ authority → ∃ userInfo host port, Uri.HasParts authority userInfo host port) ∧
    ∀ {userInfo port : Option (List Char)} {host : List Char},
      Uri.HasParts authority userInfo host port →
      (Uri.dialled? url = Uri.named? host port ↔
        userInfo = none ∧ ∀ text, port = some text → (Digits.unsigned? 65536 text).isSome) ∧
      ∀ command, ∃ out,
        (Client.mk url).request command = .ok (String.ofList (Uri.withPort host
          (some (Digits.ofNat ((port.bind (Digits.unsigned? 65536)).getD 80)))), out) ∧
        out.headers.head? =
          some (HeaderName.host, Text.bytes (String.ofList authority)) := by
  refine ⟨Uri.exists_hasParts (Uri.isAuthority_of_ofChars? huri hauthority), ?_⟩
  rintro userInfo port host hparts
  refine ⟨hparts.dialled?_eq_named?_iff huri hauthority, fun command => ?_⟩
  exact host_of_request (hparts.dialled?_eq huri hauthority)

/-- An address in brackets is dialled and shown as it is written. -/
theorem Client.dials_named_address_bracketed :
    let url := "http://[::1]:8888/base"
    let authority := "[::1]:8888".toList
    Uri.ofText? url = some ⟨some "http".toList, some authority, "/base".toList, none⟩ ∧
      Uri.HasParts authority none "[::1]".toList (some "8888".toList) ∧
      Uri.dialled? url = Uri.named? "[::1]".toList (some "8888".toList) ∧
      ∃ address out, (Client.mk url).request .resetAll = .ok (address, out) ∧
        address = "[::1]:8888" ∧
        out.headers.head? = some (HeaderName.host, Text.bytes "[::1]:8888") := by
  intro url authority
  have huri : Uri.ofText? url =
      some ⟨some "http".toList, some authority, "/base".toList, none⟩ := by decide +kernel
  have hparts : Uri.HasParts authority none "[::1]".toList (some "8888".toList) := by
    refine ⟨by decide, .bracketed (show '@' ∉ "::1".toList by decide) (by decide), ?_⟩
    intro text htext
    cases htext
    decide
  obtain ⟨hnamed, hrequest⟩ := (Client.dials_named_address_iff huri rfl).2 hparts
  have hread : ∀ text, some "8888".toList = some text →
      (Digits.unsigned? 65536 text).isSome := by
    intro text htext
    cases htext
    decide
  obtain ⟨out, hout, hhost⟩ := hrequest .resetAll
  exact ⟨huri, hparts, hnamed.mpr ⟨rfl, hread⟩, _, out, hout, by decide +kernel, hhost⟩

/-- A port that does not fit is replaced by 80, and user information is shown as part of the
host. -/
theorem Client.dials_another_address :
    (Uri.HasParts "h:99999".toList none "h".toList (some "99999".toList) ∧
      Uri.named? "h".toList (some "99999".toList) = none ∧
      Uri.dialled? "http://h:99999" = some ("h:80", "h:99999")) ∧
    Uri.HasParts "user:pw@h:81".toList (some "user:pw".toList) "h".toList (some "81".toList) ∧
      Uri.named? "h".toList (some "81".toList) = some ("h:81", "h:81") ∧
      Uri.dialled? "http://user:pw@h:81" = some ("h:81", "user:pw@h:81") := by
  have hhost : Uri.IsHost "h".toList := .plain (by decide) (by decide) (by decide)
  refine ⟨⟨⟨by decide, hhost, ?_⟩, by decide +kernel, by decide +kernel⟩,
    ⟨by decide, hhost, ?_⟩, by decide +kernel, by decide +kernel⟩
  · intro text htext
    cases htext
    decide
  · intro text htext
    cases htext
    decide

end Control

end MockHttp
