import MockHttp.Proofs.Concurrent.Consistency

/-! # Requests across resets

A request is dispatched once at most, and it is answered or aborted once at most. Its answer is
settled when it is dispatched: later registrations and resets do not change it. A request is
aborted only behind a reset that has removed its own server, when the grace period of that server
is over. A reset leaves no request behind when it returns.
-/

namespace MockHttp.Concurrent

open World

namespace World

variable {w w' : World} {a : Action} {i : Nat}

def HasBegun (w : World) (i : Nat) : Prop :=
  ∃ e, w.exchanges[i]? = some e ∧ e.progress ≠ .accepted

def HasEnded (w : World) (i : Nat) : Prop :=
  ∃ e, w.exchanges[i]? = some e ∧ e.progress.isPending = false

def IsDelisted (w : World) (i : Nat) : Prop :=
  ∃ s, w.servers[i]? = some s ∧ s.listed = false

inductive Ends (w : World) (i : Nat) : Action → Prop where
  | answer : Ends w i (.answer i)
  | abort {e : Exchange} : w.exchanges[i]? = some e → e.progress.isPending = true →
      Ends w i (.expire e.server)

theorem Step.hasBegun (h : Step w a w') (hi : w.HasBegun i) : w'.HasBegun i := by
  obtain ⟨e, he, hp⟩ := hi
  rcases h.exchange i with ⟨e', hmoves, he'⟩ | hsame
  · refine ⟨e', he', ?_⟩
    cases hmoves with
    | accepted hi =>
      subst hi
      simp at he
    | _ => nofun
  · exact ⟨e, hsame.trans he, hp⟩

theorem Step.hasEnded (h : Step w a w') (hi : w.HasEnded i) : w'.HasEnded i := by
  obtain ⟨e, he, hp⟩ := hi
  rcases h.exchange i with ⟨e', hmoves, -⟩ | hsame
  · exact (Bool.false_ne_true (hp.symm.trans (hmoves.isPending he))).elim
  · exact ⟨e, hsame.trans he, hp⟩

theorem Step.isDelisted (h : Step w a w') (hi : w.IsDelisted i) : w'.IsDelisted i := by
  obtain ⟨s, hs, hlisted⟩ := hi
  obtain ⟨s', hs', -, hstays⟩ := h.server hs
  exact ⟨s', hs', hstays hlisted⟩

theorem Step.begins {r : Request} {chance : Chance} (h : Step w (.dispatch i r chance) w') :
    ¬ w.HasBegun i ∧ w'.HasBegun i := by
  cases h with
  | dispatch r chance he hs =>
    constructor
    · rintro ⟨e, he', hp⟩
      cases he.symm.trans he'
      exact hp rfl
    · refine ⟨_, by rw [getElem?_setProgress, he, Option.map_some, if_pos rfl], ?_⟩
      nofun

theorem Step.ends (h : Step w a w') (ha : w.Ends i a) : ¬ w.HasEnded i ∧ w'.HasEnded i := by
  have of_pending : ∀ {e : Exchange}, w.exchanges[i]? = some e → e.progress.isPending = true →
      ¬ w.HasEnded i := by
    rintro e he hp ⟨e', he', hp'⟩
    cases he.symm.trans he'
    exact Bool.false_ne_true (hp'.symm.trans hp)
  cases ha with
  | answer =>
    cases h with
    | answer he =>
      refine ⟨of_pending he rfl, ?_⟩
      refine ⟨_, by rw [getElem?_setProgress, he, Option.map_some, if_pos rfl], ?_⟩
      rfl
  | @abort e he hp =>
    cases h with
    | expire hs hphase hbusy =>
      refine ⟨of_pending he hp, { e with progress := .aborted }, ?_, rfl⟩
      change (w.abort e.server).exchanges[i]? = _
      rw [getElem?_abort, he, Option.map_some, if_pos ⟨rfl, hp⟩]

theorem Removes.isDelisted {n : Nat} {s : Server} (h : Removes w a w' i n s) :
    ¬ w.IsDelisted i ∧ w'.IsDelisted i := by
  refine ⟨?_, _, h.delisted, rfl⟩
  rintro ⟨t, ht, hlisted⟩
  cases h.listed.1.symm.trans ht
  exact Bool.false_ne_true (hlisted.symm.trans h.listed.2)

end World

namespace Run

/-! ## What happens when -/

section Events

variable (run : Run) (i k : Nat)

/-- The action number `k` dispatches the request; the response is that of the script to which its
route leads now, or that there is none. -/
def DispatchedAt (response : Response) : Prop :=
  ∃ w w' r chance server s, run.Takes k w (.dispatch i r chance) w' ∧
    w.exchanges[i]? = some ⟨server, .accepted⟩ ∧ w.servers[server]? = some s ∧
    response = match w.registry.lookup ⟨s.port, r.method, r.path⟩ with
      | some script => script.respond r chance
      | none => .notFound

def EndsAt : Prop := ∃ w a w', run.Takes k w a w' ∧ w.Ends i a

/-- The grace period of the server elapses while the request is pending. -/
def AbortedAt (server : Nat) : Prop :=
  ∃ w w' progress, run.Takes k w (.expire server) w' ∧
    w.exchanges[i]? = some ⟨server, progress⟩ ∧ progress.isPending = true

/-- The action number `k` removes the server number `i`, for the reset number `n`. -/
def RemovedAt (n : Nat) : Prop := ∃ w a w' s, run.Takes k w a w' ∧ Removes w a w' i n s

/-- With the action number `k` a reset of the port begins that stops the server. -/
def ResetAt (port : Port) (server : Nat) : Prop :=
  ∃ w w' reset, run.Takes k w (.detach port) w' ∧ w'.resets[w.resets.length]? = some reset ∧
    server ∈ reset.servers

end Events

variable {run : Run} {i j k : Nat} {w : World}

theorem DispatchedAt.unique {response response' : Response} (hj : run.DispatchedAt i j response)
    (hk : run.DispatchedAt i k response') : j = k := by
  obtain ⟨u, u', _, _, _, _, hj, -⟩ := hj
  obtain ⟨w, w', _, _, _, _, hk, -⟩ := hk
  exact hj.unique (fun hs => hs.hasBegun) hk hj.step.begins.1 hj.step.begins.2
    hk.step.begins.1 hk.step.begins.2

theorem EndsAt.unique (hj : run.EndsAt i j) (hk : run.EndsAt i k) : j = k := by
  obtain ⟨u, b, u', hj, hb⟩ := hj
  obtain ⟨w, a, w', hk, ha⟩ := hk
  have hbefore := hj.step.ends hb
  have hafter := hk.step.ends ha
  exact hj.unique (fun hs => hs.hasEnded) hk hbefore.1 hbefore.2 hafter.1 hafter.2

theorem RemovedAt.unique {n n' : Nat} (hj : run.RemovedAt i j n) (hk : run.RemovedAt i k n') :
    j = k := by
  obtain ⟨u, b, u', _, hj, hb⟩ := hj
  obtain ⟨w, a, w', _, hk, ha⟩ := hk
  exact hj.unique (fun hs => hs.isDelisted) hk hb.isDelisted.1 hb.isDelisted.2
    ha.isDelisted.1 ha.isDelisted.2

/-! ## Looking back -/

theorem exists_moves {e : Exchange} (hw : run.at? k = some w) (he : w.exchanges[i]? = some e) :
    ∃ j u a u', j < k ∧ run.Takes j u a u' ∧ Moves u i a e := by
  obtain ⟨j, u, a, u', hj, ht, hnot, h⟩ :=
    exists_change (Q := fun w => w.exchanges[i]? = some e) (fun _ h => by cases h) hw he
  rcases ht.step.exchange i with ⟨e', hmoves, he'⟩ | hsame
  · cases he'.symm.trans h
    exact ⟨j, u, a, u', hj, ht, hmoves⟩
  · exact (hnot (hsame.symm.trans h)).elim

theorem exists_dispatchedAt {server : Nat} {response : Response} (hw : run.at? k = some w)
    (he : w.exchanges[i]? = some ⟨server, .dispatched response⟩) :
    ∃ j < k, run.DispatchedAt i j response := by
  obtain ⟨j, u, a, u', hj, ht, hmoves⟩ := exists_moves hw he
  cases hmoves with
  | dispatched haccepted hs =>
    exact ⟨j, hj, u, u', _, _, _, _, ht, haccepted, hs, u.registry.response_serve ..⟩

theorem exists_dispatchedAt_of_answered {server : Nat} {response : Response}
    (hw : run.at? k = some w) (he : w.exchanges[i]? = some ⟨server, .answered response⟩) :
    ∃ j < k, run.DispatchedAt i j response := by
  obtain ⟨l, u, a, u', hl, ht, hmoves⟩ := exists_moves hw he
  cases hmoves with
  | answered hpending =>
    obtain ⟨j, hj, hdispatched⟩ := exists_dispatchedAt ht.before hpending
    exact ⟨j, Nat.lt_trans hj hl, hdispatched⟩

/-- A server that is not listed has been removed by a reset. -/
theorem exists_removedAt (hw : run.at? k = some w) (hi : w.IsDelisted i) :
    ∃ j < k, ∃ n, run.RemovedAt i j n := by
  obtain ⟨j, u, a, u', hj, ht, hnot, t, hs, hlisted⟩ :=
    exists_change (Q := fun w => w.IsDelisted i) (fun _ ⟨_, h, _⟩ => by cases h) hw hi
  rcases ht.step.delisted hs hlisted with hbefore | ⟨n, t, hremoves⟩
  · exact (hnot hbefore).elim
  · exact ⟨j, hj, n, u, a, u', t, ht, hremoves⟩

theorem exists_abortedAt {server : Nat} (hw : run.at? k = some w)
    (he : w.exchanges[i]? = some ⟨server, .aborted⟩) :
    ∃ l < k, run.AbortedAt i l server ∧ ∃ j < l, ∃ n, run.RemovedAt server j n := by
  obtain ⟨l, u, a, u', hl, ht, hmoves⟩ := exists_moves hw he
  cases hmoves with
  | aborted hbefore hpending =>
    refine ⟨l, hl, ⟨u, u', _, ht, hbefore, hpending⟩, ?_⟩
    cases ht.step with
    | @expire _ s hs hphase hbusy =>
      have hlisted : s.listed = false := (consistent ht.before).not_listed hs (by simp [hphase])
      exact exists_removedAt ht.before ⟨s, hs, hlisted⟩

/-! ## Other ports -/

theorem port_eq {v : World} {s t : Server} (hv : run.at? j = some v) (hs : v.servers[i]? = some s)
    (hw : run.at? k = some w) (ht : w.servers[i]? = some t) : s.port = t.port := by
  have to_final : ∀ {k w s}, run.at? k = some w → w.servers[i]? = some s →
      ∃ t, run.final.servers[i]? = some t ∧ t.port = s.port := by
    intro k w s hw hs
    refine persists (Q := fun w => ∃ t, w.servers[i]? = some t ∧ t.port = s.port) ?_
      (Nat.le_max_left k run.actions.length) hw (at?_of_length_le (Nat.le_max_right ..))
      ⟨s, hs, rfl⟩
    rintro w a w' hstep ⟨t, ht, hport⟩
    obtain ⟨t', ht', hport', -⟩ := hstep.server ht
    exact ⟨t', ht', hport'.trans hport⟩
  obtain ⟨s', hs', hport⟩ := to_final hv hs
  obtain ⟨t', ht', hport'⟩ := to_final hw ht
  cases hs'.symm.trans ht'
  exact hport.symm.trans hport'

theorem exchange_of_other_port {w' : World} {port : Port} {server : Nat} {e : Exchange}
    {s : Server} (hreset : run.ResetAt j port server) (hexpire : run.Takes k w (.expire server) w')
    (he : w.exchanges[i]? = some e) (hs : w.servers[e.server]? = some s) (hport : s.port ≠ port) :
    w'.exchanges[i]? = some e := by
  rcases hexpire.step.exchange i with ⟨e', hmoves, -⟩ | hsame
  · cases hmoves with
    | aborted hpending _ =>
      cases he.symm.trans hpending
      obtain ⟨u, u', reset, hdetach, hr, hserver⟩ := hreset
      cases hdetach.step
      rw [resets_detachWhere, List.getElem?_concat_length, Option.some_inj] at hr
      rw [← hr, mem_detached_iff] at hserver
      obtain ⟨t, ht, -, hstops⟩ := hserver
      have hsame : t.port = s.port := port_eq hdetach.before ht hexpire.before hs
      exact (hport (hsame.symm.trans (beq_iff_eq.mp hstops))).elim
  · exact hsame.trans he

/-- Every request is dispatched once at most and ends once at most. An answer is the one that the
request was dispatched with. A request is aborted when the grace period of the one reset that has
removed its server is over; the reset of another port does not touch it, and a reset that has
returned leaves no request of its servers behind. -/
theorem requests_across_resets (run : Run) :
    (∀ i j k response response', run.DispatchedAt i j response →
      run.DispatchedAt i k response' → j = k) ∧
    (∀ i j k, run.EndsAt i j → run.EndsAt i k → j = k) ∧
    (∀ i k w server response, run.at? k = some w →
      w.exchanges[i]? = some ⟨server, .answered response⟩ →
      ∃ j < k, run.DispatchedAt i j response) ∧
    (∀ i k w server, run.at? k = some w → w.exchanges[i]? = some ⟨server, .aborted⟩ →
      ∃ l < k, run.AbortedAt i l server ∧ ∃ j < l, ∃ n, run.RemovedAt server j n ∧
        ∀ j' n', run.RemovedAt server j' n' → j' = j) ∧
    (∀ (i j k : Nat) port server w w' (e : Exchange) (s : Server), run.ResetAt j port server →
      run.Takes k w (.expire server) w' → w.exchanges[i]? = some e →
      w.servers[e.server]? = some s → s.port ≠ port → w'.exchanges[i]? = some e) ∧
    ∀ k w reset server, run.at? k = some w → reset ∈ w.resets → reset.returned = true →
      server ∈ reset.servers → w.Idle server := by
  refine ⟨fun _ _ _ _ _ => DispatchedAt.unique, fun _ _ _ => EndsAt.unique,
    fun _ _ _ _ _ => exists_dispatchedAt_of_answered, ?_,
    fun _ _ _ _ _ _ _ _ _ => exchange_of_other_port, ?_⟩
  · intro i k w server hw he
    obtain ⟨l, hl, haborted, j, hj, n, hremoved⟩ := exists_abortedAt hw he
    exact ⟨l, hl, haborted, j, hj, n, hremoved, fun j' n' h => h.unique hremoved⟩
  · intro k w reset server hw hr hreturned hserver
    have hconsistent := consistent hw
    exact hconsistent.idle_of_stopped (hconsistent.stopped_of_returned hr hreturned server hserver)

section Examples

def hello : Registration := { port := 9001, method := "GET", path := "/hello" }

def getHello : Request := { method := "GET", path := "/hello" }

def noChance : Chance := ⟨fun _ => ⟨id, 0, .zero false⟩, 0⟩

/-- Two requests are under way when their port is reset. One is answered in time. -/
def resetWhileBusy : Run :=
  ofActions []
    [.register hello, .accept 0, .accept 0, .dispatch 0 getHello noChance,
      .dispatch 1 getHello noChance, .detach 9001, .tell 0, .close 0, .register hello, .answer 0,
      .expire 0, .conclude 0] rfl

theorem requests_across_resetWhileBusy :
    (∃ response, resetWhileBusy.final.exchanges[0]? = some ⟨0, .answered response⟩ ∧
      ∃ j < 12, resetWhileBusy.DispatchedAt 0 j response) ∧
    (resetWhileBusy.final.exchanges[1]? = some ⟨0, .aborted⟩ ∧
      ∃ l < 12, resetWhileBusy.AbortedAt 1 l 0 ∧ ∃ j < l, ∃ n, resetWhileBusy.RemovedAt 0 j n ∧
        ∀ j' n', resetWhileBusy.RemovedAt 0 j' n' → j' = j) ∧
    resetWhileBusy.final.resets = [⟨[0], true⟩] ∧ resetWhileBusy.final.Idle 0 := by
  obtain ⟨-, -, hanswered, haborted, -, hidle⟩ := requests_across_resets resetWhileBusy
  have hfinal : resetWhileBusy.at? 12 = some resetWhileBusy.final := at?_length
  exact ⟨⟨_, rfl, hanswered _ _ _ _ _ hfinal rfl⟩, ⟨rfl, haborted _ _ _ _ hfinal rfl⟩, rfl,
    hidle _ _ ⟨[0], true⟩ 0 hfinal (List.mem_singleton.mpr rfl) rfl (List.mem_singleton.mpr rfl)⟩

/-- The connection is accepted before the reset, but the head of the request arrives only when the
port has been reset and registered again. -/
def lateHead : Run :=
  ofActions []
    [.register hello, .accept 0, .detach 9001, .tell 0, .close 0, .register hello,
      .dispatch 0 getHello noChance, .expire 0, .conclude 0] rfl

/-- A request can be dispatched when its server has been removed already, and still be aborted:
no reset removes the server after the dispatch. -/
theorem aborted_without_later_removal :
    lateHead.final.exchanges[0]? = some ⟨0, .aborted⟩ ∧
      (∃ response, lateHead.DispatchedAt 0 6 response) ∧
      ∀ k n, lateHead.RemovedAt 0 k n → k = 2 := by
  have hremoved : lateHead.RemovedAt 0 2 0 :=
    ⟨_, .detach 9001, _, { port := 9001 }, takes_of_step? rfl rfl rfl,
      removes_of_detachWhere rfl rfl rfl (.inl rfl)⟩
  refine ⟨rfl, ?_, fun k n h => h.unique hremoved⟩
  exact ⟨_, _, _, getHello, noChance, 0, _, takes_of_step? rfl rfl rfl, rfl, rfl, rfl⟩

end Examples

end Run

end MockHttp.Concurrent
