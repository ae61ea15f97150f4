import MockHttp.Proofs.Control.Effect
import MockHttp.Proofs.Http.Authority
import MockHttp.Proofs.Wire.RoundTrip

/-! # Clients and the controller agree

A command that a client sends arrives as that command, so it does to the controller what a direct
call does, and the answer tells the client how that went.
-/

namespace MockHttp.Control

/-- The command fits into a message. Four brackets of a registration lie around an argument. -/
def Command.IsPlain : Command → Prop
  | .register r => r.IsPlain 123
  | .resetPort _ => True
  | .resetAll => True

theorem Endpoint.ofText?_path (endpoint : Endpoint) :
    Uri.ofText? endpoint.path = some ⟨none, none, endpoint.path.toList, none⟩ := by
  cases endpoint <;> decide

def Command.inquiry (command : Command) : Inquiry where
  method := "POST"
  path := command.target.1.path
  body := some ((command.target.2.map Utf8.encode).getD [])

theorem post_eq_ok {authority target : String} {uri : Uri} (json : Option (List Char))
    (htarget : Uri.ofText? target = some uri) (hhost : IsHeaderValue (Text.bytes authority)) :
    ∃ out, Outgoing.post authority target json = .ok out ∧ out.method = "POST" ∧
      out.target = uri ∧ out.body = (json.map Utf8.encode).getD [] := by
  cases json <;> simp [Outgoing.post, htarget, hhost]

theorem ofOutgoing_request {client : Client} (hurl : (Uri.dialled? client.url).isSome)
    (command : Command) : ∃ address out, client.request command = .ok (address, out) ∧
      Inquiry.ofOutgoing out = command.inquiry := by
  obtain ⟨⟨address, authority⟩, hdialled⟩ := Option.isSome_iff_exists.mp hurl
  have hhost := isHeaderValue_bytes
    (Uri.isVisible_of_isAuthority (Uri.isAuthority_of_dialled hdialled))
  obtain ⟨out, hpost, hmethod, htarget, hbody⟩ :=
    post_eq_ok command.target.2 command.target.1.ofText?_path hhost
  refine ⟨address, out, ?_, ?_⟩
  · simp only [Client.request, hdialled, hpost]
  · simp only [Inquiry.ofOutgoing, hmethod, htarget, hbody, String.ofList_toList, Command.inquiry]

theorem message_encode {α : Type}
    {read : (depth : Nat) → Json.Input → Except Json.Error (α × Json.Input)} {text : List Char}
    {v : α} (h : Json.IsTextOf (read Json.maxDepth) text v) :
    message read (some (Utf8.encode text)) = .ok v := by
  simp [message, Wire.parse_print h]

/-- The control plane understands what a client sends. -/
theorem command?_inquiry {command : Command} (h : command.IsPlain) :
    command.inquiry.command? = .ok command := by
  unfold Inquiry.command?
  cases command with
  | register r =>
    have hmessage : message Wire.readRegistration (some (Utf8.encode r.print)) = .ok r :=
      message_encode (Wire.readRegistration_print h)
    simp [Command.inquiry, Command.target, Endpoint.ofPath?_path, hmessage, Except.map]
  | resetPort port =>
    have hmessage : message Wire.readPortReset (some (Utf8.encode (PortReset.print ⟨port⟩))) =
        .ok ⟨port⟩ := message_encode (Wire.readPortReset_print _ ⟨port⟩)
    simp [Command.inquiry, Command.target, Endpoint.ofPath?_path, hmessage, Except.map]
  | resetAll => simp [Command.inquiry, Command.target, Endpoint.ofPath?_path]

section Sending

variable {client : Client} {c : Controller} {w : Surroundings}

/-- A command that is sent is performed, and the outcome is what its answer means. -/
theorem send_eq (hurl : (Uri.dialled? client.url).isSome) {command : Command}
    (h : command.IsPlain) :
    (client.send c w command).1.registry = command.apply c w ∧
      (client.send c w command).2 = Client.outcome (some (perform c w command).2) := by
  obtain ⟨address, out, hrequest, hinquiry⟩ := ofOutgoing_request hurl command
  have hcommand := command?_inquiry h
  have hsend : client.send c w command =
      ((handle c w command.inquiry).1, Client.outcome (some (handle c w command.inquiry).2)) := by
    simp only [Client.send, hrequest, hinquiry]
  rw [hsend, response_handle hcommand, registry_handle, hcommand]
  exact ⟨rfl, rfl⟩

theorem outcome_registerResponse_iff (bindError : String) (result : Except RegisterError Unit) :
    let outcome := Client.outcome (some (registerResponse bindError result))
    (outcome = .ok () ↔ result = .ok ()) ∧
    ((∃ body, outcome = .error (.rejected 400 body)) ↔ result = .error .invalidPort) ∧
    ((∃ body, outcome = .error (.rejected 500 body)) ↔
      ∃ port, result = .error (.addressInUse port)) := by
  rcases result with ⟨_ | port⟩ | u
  all_goals simp [registerResponse, statusResponse, Client.outcome]

theorem outcome_statusResponse_ok (s : Status) :
    Client.outcome (some (statusResponse 200 s)) = .ok () := rfl

/-- Whichever controller a control plane serves, a client does with it what direct calls do. -/
theorem send_agrees (c : Controller) (w : Surroundings)
    (hurl : (Uri.dialled? client.url).isSome) :
    (∀ r : Registration, r.IsPlain 123 →
      (client.send c w (.register r)).1.registry = (c.register w r).1.registry ∧
      ((client.send c w (.register r)).2 = .ok () ↔ (c.register w r).2 = .ok ()) ∧
      ((∃ body, (client.send c w (.register r)).2 = .error (.rejected 400 body)) ↔
        (c.register w r).2 = .error .invalidPort) ∧
      ((∃ body, (client.send c w (.register r)).2 = .error (.rejected 500 body)) ↔
        ∃ port, (c.register w r).2 = .error (.addressInUse port))) ∧
    (∀ port, (client.send c w (.resetPort port)).2 = .ok () ∧
      (client.send c w (.resetPort port)).1.registry = (c.resetPort w port).registry) ∧
    (client.send c w .resetAll).2 = .ok () ∧
      (client.send c w .resetAll).1.registry = c.resetAll.1.registry := by
  refine ⟨fun r hr => ?_, fun port => ?_, ?_⟩
  · have hplain : (Command.register r).IsPlain := hr
    obtain ⟨hregistry, houtcome⟩ := send_eq hurl hplain
    rw [houtcome]
    exact ⟨hregistry, outcome_registerResponse_iff w.bindError (c.register w r).2⟩
  · have hplain : (Command.resetPort port).IsPlain := trivial
    obtain ⟨hregistry, houtcome⟩ := send_eq hurl hplain
    exact ⟨houtcome.trans (outcome_statusResponse_ok _), hregistry⟩
  · have hplain : Command.resetAll.IsPlain := trivial
    obtain ⟨hregistry, houtcome⟩ := send_eq hurl hplain
    exact ⟨houtcome.trans (outcome_statusResponse_ok _), hregistry⟩

/-- A port that is not free is refused to a client as well. -/
theorem send_agrees_localhost :
    let client := Client.ofUrl "http://127.0.0.1:8888/"
    let w : Surroundings := { isFree := fun _ => false }
    let entry : Entry := ⟨"Generator", "HashedString", [.string "\n", .array [.int (-7), .null]]⟩
    let r : Registration := ⟨9001, "GET", "/hello", [entry]⟩
    (Uri.dialled? client.url).isSome ∧ r.IsPlain 123 ∧
      (∃ body, (client.send {} w (.register r)).2 = .error (.rejected 500 body)) ∧
      (client.send {} w (.register r)).1.registry = (Controller.register {} w r).1.registry ∧
      (client.send {} w .resetAll).2 = .ok () := by
  intro client w entry r
  have hurl : (Uri.dialled? client.url).isSome := by decide
  have hplain : r.IsPlain 123 := by
    intro e he v hv
    obtain rfl := List.mem_singleton.mp he
    have hitems : ∀ v ∈ [Json.int (-7), .null], v.FloatFree := by
      simp only [List.mem_cons, List.not_mem_nil, or_false]
      rintro v (rfl | rfl)
      · exact .int (-7)
      · exact .null
    simp only [entry, List.mem_cons, List.not_mem_nil, or_false] at hv
    rcases hv with rfl | rfl
    · exact ⟨trivial, .string "\n", by decide⟩
    · exact ⟨⟨show Number.IsExact (-7) by decide, trivial, trivial⟩, .array hitems, by decide⟩
  have hagrees := send_agrees {} w hurl
  obtain ⟨hregistry, -, -, hinUse⟩ := hagrees.1 r hplain
  exact ⟨hurl, hplain, hinUse.mpr ⟨9001, rfl⟩, hregistry, hagrees.2.2.1⟩

end Sending

end MockHttp.Control
