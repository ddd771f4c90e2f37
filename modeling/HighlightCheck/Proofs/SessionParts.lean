import HighlightCheck.Proofs.SessionActs

/-!
# Parts of a step

A step is made of parts: a slot is filled or emptied, guards are dropped, a row is given. In between,
some of what was seen is still to be told, and some records that were kept are in no row yet
(`Underway`). With a row all of that is told (`Follows`).

* `Underway.act`, `Underway.move`: one act, and a change of the slots.
* `Underway.follows`: a row.
* `Follows.exists_trans`, `Follows.trans`: one step after another.
* `Underway.fill`, `Underway.dropAll`, `finishAll_follows`: the parts with acts on guards.
* `Follows.spawn`: a thread that was started.
-/

namespace HighlightCheck.Session

open Thread (Act)

/-- The last delivery was told of. -/
def State.Reported (s : State) : Prop :=
  s.reported = s.host.log.deliveries.length

/-- Of the deliveries since `earlier`, the rows tell as many as were reported. -/
def Logged (earlier : List Delivery) (rows : List (Row Result)) (s : State) : Prop :=
  ∃ new rest, s.host.log.deliveries = earlier ++ new ++ rest ∧
    s.reported = (earlier ++ new).length ∧
    (allRows rows).flatMap (·.records) = new.filterMap (·.kept?)

/-- From a thread `t`, a session has come to `s` by `acts`. It has given `rows`, and `told` is for the
next row to tell. -/
def Underway (t : Thread) (acts : List Act) (rows : List (Row Result)) (told : List Sight) (s : State)
    (away : List Guard) : Prop :=
  ∃ os u, t.Leads acts os u ∧ s.On u away ∧
    Conveys ((allRows rows).flatMap Row.sights ++ told) (os.flatMap seen) ∧
    Logged t.host.log.deliveries rows s

/-- The same where the rows have told all. -/
def Follows (t : Thread) (acts : List Act) (rows : List (Row Result)) (s : State)
    (away : List Guard) : Prop :=
  Underway t acts rows [] s away ∧ s.Reported

section

variable {t : Thread} {a : Act} {acts acts' : List Act} {rows rows' : List (Row Result)}
  {told told' sights : List Sight} {s s' : State} {away away' : List Guard} {result : Result}

theorem Underway.start (h : s.On t away) (hr : s.Reported) : Underway t [] [] [] s away := by
  refine ⟨[], t, .nil t, h, .refl [], [], [], ?_, ?_, rfl⟩
  · rw [h.host, List.append_nil, List.append_nil]
  · rw [hr, List.append_nil, h.host]

/-- A change of the slots alone. -/
theorem Underway.move (h : Underway t acts rows told s away) (hr : s'.reported = s.reported)
    (hon : ∀ u, s.On u away → s'.On u away') : Underway t acts rows told s' away' := by
  obtain ⟨os, u, hleads, hu, hconveys, new, rest, hnew, hreported, hrecords⟩ := h
  have hu' := hon u hu
  refine ⟨os, u, hleads, hu', hconveys, new, rest, ?_, hr.trans hreported, hrecords⟩
  rw [← hu'.host, hu.host, hnew]

theorem Underway.act (h : Underway t acts rows told s away) (ha : Acts s away a sights s' away') :
    Underway t (acts ++ [a]) rows (told ++ sights) s' away' := by
  obtain ⟨os, u, hleads, hu, hconveys, new, rest, hnew, hreported, hrecords⟩ := h
  obtain ⟨hr, hacts⟩ := ha
  obtain ⟨hallows, rfl, hu'⟩ := hacts u hu
  obtain ⟨more, hmore⟩ := u.deliveries_prefix_after a
  refine ⟨os ++ [u.outcome a], u.after a, hleads.trans (.of_act hallows), hu', ?_, new, rest ++ more,
    ?_, hr.trans hreported, hrecords⟩
  · rw [← List.append_assoc, List.flatMap_append, List.flatMap_singleton]
    exact hconveys.append (.refl _)
  · rw [← hu'.host, ← hmore, hu.host, hnew, List.append_assoc]

theorem Acts.underway (ha : Acts s away a sights s' away') (h : s.On t away) (hr : s.Reported) :
    Underway t [a] [] sights s' away' :=
  (Underway.start h hr).act ha

/-- What may be left out is left out. -/
theorem Underway.weaken (h : Underway t acts rows told s away) (hc : Conveys told' told) :
    Underway t acts rows told' s away := by
  obtain ⟨os, u, hleads, hu, hconveys, hlogged⟩ := h
  exact ⟨os, u, hleads, hu, ((Conveys.refl _).append hc).trans hconveys, hlogged⟩

/-- One row tells all that is to be told, and the rows before it are part of its result. -/
theorem Underway.follows (h : Underway t acts rows result.sights s away)
    (hinner : result.inner = allRows rows) :
    Follows t (acts ++ [.hasActive]) [(finish result s).1] (finish result s).2 away := by
  have hacts : Acts s away .hasActive [.loaded s.host.guards.hasActive] s away :=
    ⟨rfl, fun u hu => ⟨trivial, by rw [← hu.host]; rfl, hu⟩⟩
  obtain ⟨os, u, hleads, hu, hconveys, new, rest, hnew, hreported, hrecords⟩ := h.act hacts
  have hrows : allRows [(finish result s).1] = allRows rows ++ [(finish result s).1] :=
    congrArg (· ++ [(finish result s).1]) hinner
  have hrest : s.host.log.deliveries.drop s.reported = rest := by
    rw [hnew, hreported, List.drop_left]
  refine ⟨⟨os, u, hleads, ⟨hu.host, hu.held, hu.distinct, hu.apart⟩, ?_, new ++ rest, [], ?_, ?_, ?_⟩,
    rfl⟩
  · rw [hrows, List.flatMap_append, List.flatMap_singleton, List.append_nil]
    exact hconveys
  · rw [List.append_nil, ← List.append_assoc]
    exact hnew
  · rw [← List.append_assoc]
    exact congrArg List.length hnew
  · rw [hrows, List.flatMap_append, List.flatMap_singleton, hrecords, List.filterMap_append, ← hrest]
    rfl

/-- If the last delivery was told of, all of them were. -/
theorem Logged.exists_of_reported {earlier : List Delivery} (h : Logged earlier rows s)
    (hr : s.Reported) :
    ∃ new, s.host.log.deliveries = earlier ++ new ∧
      (allRows rows).flatMap (·.records) = new.filterMap (·.kept?) := by
  obtain ⟨new, rest, hnew, hreported, hrecords⟩ := h
  have hnil : rest = [] := by
    rw [State.Reported, hreported, hnew] at hr
    simp only [List.length_append] at hr
    exact List.length_eq_zero_iff.mp (by omega)
  subst hnil
  exact ⟨new, by rw [hnew, List.append_nil], hrecords⟩

/-- Whatever acts come next, they come behind those that were taken. -/
theorem Follows.exists_trans {P : List Act → Prop} (h : Follows t acts rows s away)
    (h' : ∀ u, s.On u away → ∃ acts', P acts' ∧ Follows u acts' rows' s' away') :
    ∃ acts', P acts' ∧ Follows t (acts ++ acts') (rows ++ rows') s' away' := by
  obtain ⟨⟨os, u, hleads, hu, hconveys, hlogged⟩, hend⟩ := h
  obtain ⟨new, hnew, hrecords⟩ := hlogged.exists_of_reported hend
  obtain ⟨acts', hacts', ⟨os', u', hleads', hu', hconveys', new', rest, hnew', hreported', hrecords'⟩,
    hend'⟩ := h' u hu
  rw [hu.host, hnew] at hnew' hreported'
  rw [List.append_nil] at hconveys hconveys'
  refine ⟨acts', hacts', ⟨os ++ os', u', hleads.trans hleads', hu', ?_, new ++ new', rest, ?_, ?_, ?_⟩,
    hend'⟩
  · rw [allRows_append, List.flatMap_append, List.flatMap_append, List.append_nil]
    exact hconveys.append hconveys'
  · rw [hnew', List.append_assoc t.host.log.deliveries]
  · rw [hreported', List.append_assoc]
  · rw [allRows_append, List.flatMap_append, hrecords, hrecords', List.filterMap_append]

theorem Follows.trans (h : Follows t acts rows s away)
    (h' : ∀ u, s.On u away → Follows u acts' rows' s' away') :
    Follows t (acts ++ acts') (rows ++ rows') s' away' := by
  obtain ⟨_, rfl, hall⟩ := h.exists_trans fun u hu => ⟨acts', rfl, h' u hu⟩
  exact hall

end

/-! ## What the parts do -/

section

variable {t : Thread} {acts : List Act} {rows : List (Row Result)} {told : List Sight} {s s' : State}
  {away away' : List Guard}

theorem fill_of_error {slot : String} {cache : CommandCache} {host : Host} {f : Fault}
    (hload : Action.load cache s.host = (.error f, host)) :
    fill slot cache s = (.error f, { s with host := host }) := by
  simp only [fill, perform, bind, StateT.bind, hload]
  rfl

theorem fill_of_ok {slot : String} {cache : CommandCache} {host : Host} {g : Guard}
    (hload : Action.load cache s.host = (.ok g, host)) :
    let s' : State := { s with host := host, slots := s.slots.put slot g }
    fill slot cache s =
      match s.slots.guard? slot with
      | none => (.ok (), s')
      | some old => perform (Action.drop old) s' := by
  simp only [fill, perform, bind, StateT.bind, hload]
  show (match s.slots.guard? slot with
    | none => (pure (.ok ()) : StateM State (Except Fault Unit))
    | some old => perform (Action.drop old)) _ = _
  cases s.slots.guard? slot <;> rfl

theorem Underway.fill (h : Underway t acts rows told s away) (slot : String) (cache : CommandCache) :
    ∃ more, Fills cache more ∧
      Underway t (acts ++ more) rows
        (told ++ seenOf (fun _ => [.cache cache]) (Session.fill slot cache s).1)
        (Session.fill slot cache s).2 away := by
  rcases hload : Action.load cache s.host with ⟨f | g, host⟩
  · have hacts : Acts s away (.op (.load cache)) [.fault f] { s with host := host } away :=
      ⟨rfl, fun u hu => ⟨trivial, hu.load_error hload⟩⟩
    rw [fill_of_error hload]
    exact ⟨_, ⟨none, rfl⟩, h.act hacts⟩
  have hacts : Acts s away (.op (.load cache)) [.cache cache] { s with host := host } (g :: away) :=
    ⟨rfl, fun u hu => ⟨trivial, hu.load_ok hload⟩⟩
  have hput : Underway t (acts ++ [.op (.load cache)]) rows (told ++ [.cache cache])
      { s with host := host, slots := s.slots.put slot g } ((s.slots.guard? slot).toList ++ away) :=
    (h.act hacts).move rfl fun u hu => hu.put slot
  rw [fill_of_ok hload]
  cases hold : s.slots.guard? slot with
  | none =>
    rw [hold] at hput
    exact ⟨_, ⟨none, rfl⟩, hput⟩
  | some old =>
    rw [hold] at hput
    have hdrop := hput.act (acts_drop old _ away)
    rw [List.append_assoc, List.append_assoc] at hdrop
    refine ⟨_, ⟨some old.id, rfl⟩, hdrop.weaken ((Conveys.refl told).append ?_)⟩
    -- If the drop ends in a fault, the row tells that and not the cache.
    cases (perform (Action.drop old) { s with host := host, slots := s.slots.put slot g }).1 with
    | ok _ => exact .refl _
    | error f => exact .of_sublist (List.sublist_cons_self _ _) (by simp [seenOf, Sight.isFirm])

theorem dropAll_cons (g : Guard) (rest : List Guard) (s : State) :
    dropAll (g :: rest) s =
      ((match (perform (Action.drop g) s).1 with
        | .ok _ => none
        | .error f => some f).or (dropAll rest (perform (Action.drop g) s).2).1,
        (dropAll rest (perform (Action.drop g) s).2).2) := rfl

theorem Underway.dropAll {guards : List Guard} (h : Underway t acts rows told s (guards ++ away)) :
    Underway t (acts ++ drops (guards.map (·.id))) rows
      (told ++ ((Session.dropAll guards s).1.map .fault).toList)
      (Session.dropAll guards s).2 away := by
  induction guards generalizing acts told s with
  | nil =>
    show Underway t (acts ++ []) rows (told ++ []) s away
    rw [List.append_nil, List.append_nil]
    exact h
  | cons g rest ih =>
    have hrest := ih (h.act (acts_drop g s _))
    rw [List.append_assoc, List.append_assoc] at hrest
    rw [dropAll_cons]
    refine hrest.weaken ((Conveys.refl told).append ?_)
    -- Of several faults, only the first one is told.
    cases (perform (Action.drop g) s).1 with
    | ok _ => exact .refl _
    | error f =>
      refine .of_sublist (List.sublist_append_left _ _) ?_
      simp [seenOf, Sight.isFirm]

theorem slots_dropAll (guards : List Guard) (s : State) : (dropAll guards s).2.slots = s.slots := by
  induction guards generalizing s with
  | nil => rfl
  | cons g rest ih => exact ih (perform (Action.drop g) s).2

theorem slots_dropSlots (s : State) : (dropSlots s).2.slots = [] :=
  slots_dropAll s.slots.held { s with slots := [] }

theorem Underway.dropSlots (h : Underway t acts rows told s away) :
    Underway t (acts ++ drops (s.slots.held.map (·.id))) rows
      (told ++ ((Session.dropSlots s).1.map .fault).toList) (Session.dropSlots s).2 away := by
  have hleft : Underway t acts rows told { s with slots := [] } (s.slots.held ++ away) :=
    h.move rfl fun _ hu => hu.leave
  exact hleft.dropAll

theorem Underway.finishWith {α : Type} {f : α → Result} {outcome : Except Fault α}
    (h : Underway t acts [] (seenOf (fun a => (f a).sights) outcome) s away)
    (hinner : ∀ a, (f a).inner = []) :
    Follows t (acts ++ [.hasActive]) [(Session.finishWith f outcome s).1]
      (Session.finishWith f outcome s).2 away := by
  cases outcome with
  | ok a => exact h.follows (hinner a)
  | error e => exact Underway.follows h rfl

theorem Underway.finishQuiet {outcome : Except Fault Unit}
    (h : Underway t acts [] (seenOf (fun _ => []) outcome) s away) :
    Follows t (acts ++ [.hasActive]) [(Session.finishWith (fun _ => .nothing) outcome s).1]
      (Session.finishWith (fun _ => .nothing) outcome s).2 away :=
  Underway.finishWith h fun _ => rfl

theorem finishAll_apply (s : State) :
    finishAll s = finish (match (dropSlots s).1 with
      | none => .ended
      | some f => .fault f) (dropSlots s).2 := by
  show (match (dropSlots s).1 with
    | none => finish .ended
    | some f => finish (.fault f)) (dropSlots s).2 = _
  cases (dropSlots s).1 <;> rfl

theorem slots_finishAll (s : State) : (finishAll s).2.slots = [] := by
  rw [finishAll_apply]
  exact slots_dropSlots s

theorem finishAll_follows (h : s.On t away) (hr : s.Reported) :
    Follows t (drops (s.slots.held.map (·.id)) ++ [.hasActive]) [(finishAll s).1] (finishAll s).2
      away := by
  have hdropped := (Underway.start h hr).dropSlots
  rw [finishAll_apply]
  cases hd : (dropSlots s).1 with
  | none =>
    rw [hd] at hdropped
    exact hdropped.follows rfl
  | some f =>
    rw [hd] at hdropped
    exact hdropped.follows rfl

/-- The text with which a host ends a scope hides a fault of its drops. -/
theorem conveys_scope (inner : List (Row Result)) (raise : Option String) (dropped : Option Fault) :
    Conveys (Result.scope inner ((raise.map .raised).or dropped)).sights
      (dropped.map .fault).toList := by
  refine .of_sublist ?_ ?_
  · cases raise with
    | some text => exact List.nil_sublist _
    | none =>
      cases dropped with
      | none => exact List.nil_sublist _
      | some f => cases f <;> simp [Result.sights]
  · cases dropped <;> simp [Sight.isFirm]

/-- The session goes on where it was, after a thread that it has started. -/
theorem Follows.spawn (hs : s.On t away)
    (h : Follows (.fresh s.host.files s.host.log) acts rows s' away') :
    Follows t acts rows
      { s' with host := { s'.host with guards := s.host.guards }, slots := s.slots } away := by
  obtain ⟨⟨os, u, hleads, hu, hconveys, hlogged⟩, hend⟩ := h
  have hfiles : s'.host.files = s.host.files := by
    rw [← hu.host]
    exact hleads.files_eq
  rw [← hs.host] at hleads
  have hstarts := Thread.Leads.spawn hleads (.nil _)
  rw [List.append_nil, List.append_nil] at hstarts
  refine ⟨⟨os, t.withLog u.host.log, hstarts, ?_, hconveys, ?_⟩, hend⟩
  · refine ⟨?_, hs.held, hs.distinct, ⟨hs.apart.nodup, hs.apart.id_lt⟩⟩
    show (⟨t.host.files, t.host.guards, u.host.log⟩ : Host) =
      ⟨s'.host.files, s.host.guards, s'.host.log⟩
    rw [hs.host, hu.host, hfiles]
  · rw [hs.host]
    exact hlogged

end

end HighlightCheck.Session
