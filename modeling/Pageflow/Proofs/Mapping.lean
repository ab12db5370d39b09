/-
  Pageflow.Proofs.Mapping — built flows are in order.

  Mapping changes nothing of an activity but where its parameters come from, and adds the makers
  of generated values behind all activities there are.  A maker is mapped after it is added, so
  its own makers stand behind it.

  Main definition: `IsBuilt`.
  Main statements: `isBuilt_of_assemble` and `IsBuilt.orderly`.
-/
import Mathlib.Data.List.Forall2
import Pageflow.Proofs.Layout

namespace Pageflow.Flow

/-! ## §1. Additions. -/

/-- A maker for an activity of the service is among the additions, at place `k`. -/
def MadeBy (added : Additions) (service : String) (k : Nat) : Prop :=
  ∃ i b, k = added.place + i ∧ added.activities[i]? = some b ∧ b.service = service

/-- What mapping adds: makers for which nothing makes values yet. -/
structure IsAddition (a : Activity) : Prop where
  isMaker : IsMaker a
  makers : a.makers = []

/-- Some more may have been added. -/
structure Additions.Grows (before after : Additions) : Prop where
  place : after.place = before.place
  more : ∃ more, after.activities = before.activities ++ more ∧ ∀ a ∈ more, IsAddition a

theorem Additions.Grows.refl (added : Additions) : added.Grows added where
  place := rfl
  more := ⟨[], by simp, by simp⟩

theorem Additions.Grows.trans {a b c : Additions} (h : a.Grows b) (h' : b.Grows c) :
    a.Grows c where
  place := h'.place.trans h.place
  more := by
    obtain ⟨l, hl, hml⟩ := h.more
    obtain ⟨l', hl', hml'⟩ := h'.more
    refine ⟨l ++ l', by rw [hl', hl, List.append_assoc], ?_⟩
    intro x hx
    rcases List.mem_append.mp hx with hx | hx
    · exact hml x hx
    · exact hml' x hx

theorem MadeBy.mono {before after : Additions} {service : String} {k : Nat}
    (h : MadeBy before service k) (hg : before.Grows after) : MadeBy after service k := by
  obtain ⟨i, b, hk, hb, hs⟩ := h
  obtain ⟨more, hmore, _⟩ := hg.more
  refine ⟨i, b, by rw [hg.place, hk], ?_, hs⟩
  obtain ⟨hi, _⟩ := List.getElem?_eq_some_iff.mp hb
  rw [hmore, List.getElem?_append_left hi]
  exact hb

theorem isAddition_generatorOf (m : Mapping) (service activity parameter : String)
    (g : Document.Generate) : IsAddition (generatorOf m service activity parameter g).value where
  isMaker :=
    { isGenerated := rfl
      isReference := isReference_unplaced m.materials.functions service
        (generatorName activity parameter) (g.toActivity (generatorName activity parameter))
        (m.materials.bridges.get? service)
      parent := rfl
      subActivities := rfl
      required := rfl
      storeResult := rfl
      presentation := rfl
      overrides := rfl
      preProcess := rfl }
  makers := rfl

theorem grows_push {added : Additions} {a : Activity} (h : IsAddition a) :
    added.Grows (added.push a) where
  place := rfl
  more := ⟨[a], rfl, by intro b hb; rw [List.mem_singleton.mp hb]; exact h⟩

theorem madeBy_push (added : Additions) (a : Activity) :
    MadeBy (added.push a) a.service added.next :=
  ⟨added.activities.length, a, rfl, by simp [Additions.push], rfl⟩

/-! ## §2. Sources. -/

/-- The makers of the sources are among the additions. -/
def SourcesMade (added : Additions) (service : String) (sources : Dict Source) : Prop :=
  ∀ source ∈ sources.values, ∀ k, source.maker? = some k → MadeBy added service k

/-- The makers of dynamic parameters are among the additions. -/
def DynamicMade (added : Additions) (service : String) (ps : Dict DynamicParameter) : Prop :=
  ∀ p ∈ ps.values, ∀ k, p.generator = some k → MadeBy added service k

theorem SourcesMade.mono {before after : Additions} {service : String} {sources : Dict Source}
    (h : SourcesMade before service sources) (hg : before.Grows after) :
    SourcesMade after service sources :=
  fun source hs k hk => (h source hs k hk).mono hg

theorem DynamicMade.mono {before after : Additions} {service : String}
    {ps : Dict DynamicParameter} (h : DynamicMade before service ps) (hg : before.Grows after) :
    DynamicMade after service ps :=
  fun p hp k hk => (h p hp k hk).mono hg

theorem SourcesMade.insert {added : Additions} {service : String} {sources : Dict Source}
    (h : SourcesMade added service sources) (name : String) {source : Source}
    (hs : ∀ k, source.maker? = some k → MadeBy added service k) :
    SourcesMade added service (sources.insert name source) := by
  intro source' hm
  rcases Dict.mem_values_insert hm with rfl | hm
  · exact hs
  · exact h source' hm

theorem DynamicMade.insert {added : Additions} {service : String}
    {ps : Dict DynamicParameter} (h : DynamicMade added service ps) (name : String)
    {p : DynamicParameter} (hp : ∀ k, p.generator = some k → MadeBy added service k) :
    DynamicMade added service (ps.insert name p) := by
  intro p' hm
  rcases Dict.mem_values_insert hm with rfl | hm
  · exact hp
  · exact h p' hm

section Source

variable (m : Mapping) (service activity parameter : String) (p : Document.Parameter)
  (added : Additions)

theorem sourceOf_grows :
    added.Grows (sourceOf m service activity parameter p added).value.2
      ∧ ∀ k, (sourceOf m service activity parameter p added).value.1.maker? = some k →
        MadeBy (sourceOf m service activity parameter p added).value.2 service k := by
  unfold sourceOf
  split
  next g _ =>
    refine ⟨grows_push (isAddition_generatorOf m service activity parameter g), ?_⟩
    intro k hk
    obtain rfl := Option.some.inj hk
    exact madeBy_push added _
  next =>
    split
    next source hs =>
      refine ⟨.refl added, ?_⟩
      intro k hk
      exact absurd (Source.maker?_of_ofParameter? hs hk) (by simp)
    next =>
      refine ⟨.refl added, ?_⟩
      intro k hk
      contradiction

theorem dynamicOf_grows :
    added.Grows (dynamicOf m service activity parameter p added).value.2
      ∧ ∀ k, (dynamicOf m service activity parameter p added).value.1.generator = some k →
        MadeBy (dynamicOf m service activity parameter p added).value.2 service k := by
  unfold dynamicOf
  split
  next g _ =>
    refine ⟨grows_push (isAddition_generatorOf m service activity parameter g), ?_⟩
    intro k hk
    obtain rfl := Option.some.inj hk
    exact madeBy_push added _
  next =>
    refine ⟨.refl added, ?_⟩
    intro k hk
    contradiction

end Source

/-! ## §3. Parameters. -/

/-- The makers of the parameters mapped so far are among the additions. -/
structure MappedMade (service : String) (so : Mapped) : Prop where
  parameters : SourcesMade so.added service so.parameters
  dynamicParameters : DynamicMade so.added service so.dynamicParameters

theorem mapDefined_made (m : Mapping) (service activity name : String) (p : Document.Parameter)
    {so : Mapped} (h : MappedMade service so) :
    so.added.Grows (mapDefined m service activity name p so).value.added
      ∧ MappedMade service (mapDefined m service activity name p so).value := by
  unfold mapDefined
  split
  next =>
    obtain ⟨grows, made⟩ := dynamicOf_grows m service activity name p so.added
    exact ⟨grows, h.parameters.mono grows, (h.dynamicParameters.mono grows).insert name made⟩
  next =>
    obtain ⟨grows, made⟩ := sourceOf_grows m service activity name p so.added
    exact ⟨grows, (h.parameters.mono grows).insert name made, h.dynamicParameters.mono grows⟩

theorem mapInput_made (m : Mapping) (service activity name : String) {so : Mapped}
    (h : MappedMade service so) :
    so.added.Grows (mapInput m service activity name so).value.added
      ∧ MappedMade service (mapInput m service activity name so).value := by
  unfold mapInput
  split
  next i _ =>
    refine ⟨.refl _, h.parameters.insert name ?_, h.dynamicParameters⟩
    intro k hk
    split at hk <;> contradiction
  next => exact ⟨.refl _, h⟩

theorem mapName_made (m : Mapping) (a : Activity) (name : String) {so : Mapped}
    (h : MappedMade a.service so) :
    so.added.Grows (mapName m a so name).value.added
      ∧ MappedMade a.service (mapName m a so name).value := by
  unfold mapName
  split
  next p _ => exact mapDefined_made m a.service a.name name p h
  next => exact mapInput_made m a.service a.name name h

theorem mapNames_made (m : Mapping) (a : Activity) :
    ∀ (names : List String) {so : Mapped}, MappedMade a.service so →
      so.added.Grows (names.foldlM (mapName m a) so).value.added
        ∧ MappedMade a.service (names.foldlM (mapName m a) so).value
  | [], so, h => ⟨.refl so.added, h⟩
  | name :: rest, so, h => by
      rw [List.foldlM_cons, Noted.value_bind]
      obtain ⟨grows, made⟩ := mapName_made m a name h
      obtain ⟨grows', made'⟩ := mapNames_made m a rest made
      exact ⟨grows.trans grows', made'⟩

theorem mapBody_made (m : Mapping) (a : Activity) :
    ∀ (parts : List (String × Document.Parameter)) (body : Dict Source) (added : Additions),
      SourcesMade added a.service body →
      added.Grows (mapBody m a parts body added).value.2
        ∧ SourcesMade (mapBody m a parts body added).value.2 a.service
          (mapBody m a parts body added).value.1
  | [], body, added, h => ⟨.refl added, h⟩
  | (part, p) :: rest, body, added, h => by
      simp only [mapBody, Noted.value_bind]
      obtain ⟨grows, made⟩ := sourceOf_grows m a.service a.name part p added
      obtain ⟨grows', made'⟩ := mapBody_made m a rest _ _ ((h.mono grows).insert part made)
      exact ⟨grows.trans grows', made'⟩

theorem mapRequestBody_made (m : Mapping) (a : Activity) (strategy : Strategy)
    (added : Additions) :
    added.Grows (mapRequestBody m a strategy added).value.2
      ∧ SourcesMade (mapRequestBody m a strategy added).value.2 a.service
        (mapRequestBody m a strategy added).value.1 := by
  have hnil : SourcesMade added a.service [] := by
    intro source hs
    contradiction
  unfold mapRequestBody
  split
  next => exact mapBody_made m a a.bodyDefinitions [] added hnil
  next =>
    split
    next => exact ⟨.refl added, hnil⟩
    next => exact ⟨.refl added, hnil⟩

/-! ## §4. Activities. -/

/-- The second activity is the first one after mapping; its makers are among the additions. -/
structure IsMapped (added : Additions) (a b : Activity) : Prop where
  retains : Retains a b
  makers : ∀ k ∈ b.makers, MadeBy added a.service k

theorem IsMapped.mono {before after : Additions} {a b : Activity} (h : IsMapped before a b)
    (hg : before.Grows after) : IsMapped after a b :=
  ⟨h.retains, fun k hk => (h.makers k hk).mono hg⟩

theorem mem_makers {a : Activity} {k : Nat} (h : k ∈ a.makers) :
    (∃ source ∈ a.parameters.values ++ a.requestBody.values, source.maker? = some k)
      ∨ ∃ p ∈ a.dynamicParameters.values, p.generator = some k := by
  rcases List.mem_append.mp h with h | h
  · exact .inl (List.mem_filterMap.mp h)
  · exact .inr (List.mem_filterMap.mp h)

theorem mapOwn_mapped (m : Mapping) (a : Activity) (strategy : Strategy) (added : Additions) :
    added.Grows (mapOwn m a strategy added).value.2
      ∧ IsMapped (mapOwn m a strategy added).value.2 a (mapOwn m a strategy added).value.1 := by
  have hnil : MappedMade a.service { added } :=
    ⟨by intro source hs; contradiction, by intro p hp; contradiction⟩
  obtain ⟨grows, made⟩ := mapNames_made m a strategy.ownParameterNames hnil
  simp only [mapOwn, Noted.value_bind, Noted.value_pure]
  generalize (strategy.ownParameterNames.foldlM (mapName m a) { added }).value = mapped
    at grows made ⊢
  obtain ⟨grows', madeBody⟩ := mapRequestBody_made m a strategy mapped.added
  refine ⟨grows.trans grows', rfl, ?_⟩
  intro k hk
  rcases mem_makers hk with ⟨source, hs, hk⟩ | ⟨p, hp, hk⟩
  · rcases List.mem_append.mp hs with hs | hs
    · exact made.parameters.mono grows' source hs k hk
    · exact madeBody source hs k hk
  · exact made.dynamicParameters.mono grows' p hp k hk

theorem mapActivity_mapped (m : Mapping) (a : Activity) (added : Additions)
    (h : a.makers = []) :
    added.Grows (mapActivity m a added).value.2
      ∧ IsMapped (mapActivity m a added).value.2 a (mapActivity m a added).value.1 := by
  have unchanged : IsMapped added a a := ⟨rfl, by intro k hk; rw [h] at hk; contradiction⟩
  unfold mapActivity
  split
  next => exact ⟨.refl added, unchanged⟩
  next strategy _ =>
    split
    next => exact ⟨.refl added, unchanged⟩
    next => exact mapOwn_mapped m a strategy added

theorem mapRound_mapped (m : Mapping) :
    ∀ (activities : List Activity) (added : Additions), (∀ a ∈ activities, a.makers = []) →
      added.Grows (mapRound m added activities).value.2
        ∧ List.Forall₂ (IsMapped (mapRound m added activities).value.2) activities
          (mapRound m added activities).value.1
  | [], added, _ => ⟨.refl added, .nil⟩
  | a :: rest, added, h => by
      simp only [mapRound, Noted.value_bind, Noted.value_pure]
      obtain ⟨grows, mapped⟩ := mapActivity_mapped m a added (h a List.mem_cons_self)
      obtain ⟨grows', others⟩ := mapRound_mapped m rest (mapActivity m a added).value.2
        fun b hb => h b (List.mem_cons_of_mem _ hb)
      exact ⟨grows.trans grows', .cons (mapped.mono grows') others⟩

/-! ## §5. Rounds. -/

/-- The makers of the activity at place `i` stand behind it in the arena. -/
def MakersBehind (arena : List Activity) (i : Nat) (a : Activity) : Prop :=
  ∀ k ∈ a.makers, i < k ∧ ∃ b, arena[k]? = some b ∧ IsMaker b ∧ b.service = a.service

/-- What the rounds make of the activities from place `o` on: these, mapped, and then makers;
each has its own makers behind it. -/
structure IsRounded (arena : List Activity) (o : Nat) (before : List Activity)
    (after : List Activity) : Prop where
  mapped : ∀ i a, before[i]? = some a →
    ∃ b, after[i]? = some b ∧ Retains a b ∧ MakersBehind arena (o + i) b
  added : ∀ i b, before.length ≤ i → after[i]? = some b →
    IsMaker b ∧ MakersBehind arena (o + i) b

theorem getElem?_of_forall₂ {α β : Type} {R : α → β → Prop} {a : α} :
    ∀ {xs : List α} {ys : List β} {i : Nat}, List.Forall₂ R xs ys → xs[i]? = some a →
      ∃ b, ys[i]? = some b ∧ R a b
  | _ :: _, _ :: _, 0, .cons h _, ha => by
      obtain rfl := Option.some.inj ha
      exact ⟨_, rfl, h⟩
  | _ :: _, _ :: _, i + 1, .cons _ h, ha => getElem?_of_forall₂ (i := i) h ha

/-- One round and those after it. -/
theorem isRounded_of_round {arena before mapped behind : List Activity} {o : Nat}
    {added : Additions} (hplace : added.place = o + before.length)
    (hadded : ∀ a ∈ added.activities, IsAddition a)
    (hmapped : List.Forall₂ (IsMapped added) before mapped)
    (has : HasAt arena o (mapped ++ behind))
    (others : IsRounded arena added.place added.activities behind) :
    IsRounded arena o before (mapped ++ behind) := by
  have hlen := hmapped.length_eq
  constructor
  case mapped =>
    intro i a ha
    obtain ⟨b, hb, retains, made⟩ := getElem?_of_forall₂ hmapped ha
    obtain ⟨hi, _⟩ := List.getElem?_eq_some_iff.mp hb
    refine ⟨b, by rw [List.getElem?_append_left hi]; exact hb, retains, ?_⟩
    intro k hk
    -- this round added the maker, and the rounds after it leave it a maker
    obtain ⟨j, c, hkj, hc, hservice⟩ := made k hk
    obtain ⟨c', hc', retains', _⟩ := others.mapped j c hc
    have hmaker := retains'.isMaker (hadded c (List.mem_of_getElem? hc)).isMaker
    refine ⟨by omega, c', ?_, hmaker, ?_⟩
    · rw [hkj, hplace, hlen]
      exact has.right j c' hc'
    · rw [retains'.service, hservice, retains.service]
  case added =>
    intro i b hi hb
    rw [List.getElem?_append_right (by omega)] at hb
    have hplace' : added.place + (i - mapped.length) = o + i := by omega
    rw [← hplace']
    -- it was added by this round or by one after it
    by_cases hj : i - mapped.length < added.activities.length
    · obtain ⟨b', hb', retains, behind⟩ :=
        others.mapped _ _ (List.getElem?_eq_getElem hj)
      obtain rfl := Option.some.inj (hb.symm.trans hb')
      exact ⟨retains.isMaker (hadded _ (List.getElem_mem hj)).isMaker, behind⟩
    · exact others.added _ b (by omega) hb

/-- **Rounds leave the activities as they are but for their parameters, and put makers behind
them.** -/
theorem mapRounds_rounded (m : Mapping) :
    ∀ (rounds : Nat) (arena before after : List Activity) (o : Nat),
      (∀ a ∈ before, a.makers = []) →
      (mapRounds m rounds (o + before.length) before).value = some after →
      HasAt arena o after → IsRounded arena o before after
  | rounds, arena, [], after, o, _, h, _ => by
      obtain rfl : [] = after := by
        cases rounds <;> exact Option.some.inj h
      refine ⟨?_, ?_⟩ <;> intro i a hi <;> simp at *
  | 0, arena, a :: rest, after, o, _, h, _ => by
      contradiction
  | rounds + 1, arena, a :: rest, after, o, hbefore, h, has => by
      simp only [mapRounds, Noted.value_bind, Noted.value_pure, Option.map_eq_some_iff] at h
      obtain ⟨grows, hmapped⟩ := mapRound_mapped m (a :: rest)
        { place := o + (a :: rest).length } hbefore
      generalize (mapRound m { place := o + (a :: rest).length } (a :: rest)).value = round
        at h grows hmapped
      obtain ⟨mapped, added⟩ := round
      obtain ⟨behind, hbehind, rfl⟩ := h
      -- a round starts without additions, so all there are afterwards are its own
      obtain ⟨more, hmore, hadditions⟩ := grows.more
      have hadded : ∀ b ∈ added.activities, IsAddition b := by
        intro b hb
        rw [hmore] at hb
        exact hadditions b hb
      have hplace : added.place = o + (a :: rest).length := grows.place
      have hasBehind : HasAt arena added.place behind := by
        rw [hplace, hmapped.length_eq]
        exact has.right
      have others := mapRounds_rounded m rounds arena added.activities behind added.place
        (fun b hb => (hadded b hb).makers) hbehind hasBehind
      exact isRounded_of_round hplace hadded hmapped has others

/-! ## §6. Flows. -/

section Assembled

variable {arena after : List Activity}

/-- What stands at a place before mapping stands there after it, but for its parameters. -/
theorem IsRounded.at (h : IsRounded after 0 arena after) {i : Nat} {a : Activity}
    (ha : arena[i]? = some a) :
    ∃ b, after[i]? = some b ∧ Retains a b ∧ MakersBehind after i b := by
  obtain ⟨b, hb, retains, behind⟩ := h.mapped i a ha
  rw [Nat.zero_add] at behind
  exact ⟨b, hb, retains, behind⟩

theorem IsDeclared.retains {a b : Activity} (h : IsDeclared a) (hr : Retains a b) :
    IsDeclared b :=
  ⟨hr.isGenerated.trans h.isGenerated, hr.isReference.trans h.isReference⟩

/-- An activity that is in order before mapping is in order after it. -/
theorem Placed.mapped (h : IsRounded after 0 arena after) {i : Nat} {a b : Activity}
    (hp : Placed arena i a) (hg : a.isGenerated = false) (hr : Retains a b)
    (behind : MakersBehind after i b) : Placed after i b where
  sub := by
    intro k hk
    rw [hr.subActivities] at hk
    obtain ⟨hlt, c, hc, declared, parent, service⟩ := hp.sub k hk
    obtain ⟨c', hc', hrc, _⟩ := h.at hc
    exact ⟨hlt, c', hc', declared.retains hrc, hrc.parent.trans parent,
      (hrc.service.trans service).trans hr.service.symm⟩
  above := by
    intro p hp'
    rw [hr.parent] at hp'
    obtain ⟨hlt, c, hc, hi⟩ := hp.above p hp'
    obtain ⟨c', hc', hrc, _⟩ := h.at hc
    exact ⟨hlt, c', hc', by rw [hrc.subActivities]; exact hi⟩
  target := by
    intro t ht
    rw [hr.target?] at ht
    obtain ⟨hlt, c, hc, declared, parent⟩ := hp.target t ht
    obtain ⟨c', hc', hrc, _⟩ := h.at hc
    exact ⟨hlt, c', hc', declared.retains hrc, hrc.parent.trans parent⟩
  reference := by
    intro h
    rw [hr.isReference] at h
    exact hr.service.trans (hp.reference h)
  maker := behind
  generated := by
    intro hb
    rw [hr.isGenerated, hg] at hb
    contradiction

/-- A maker with its own makers behind it is in order. -/
theorem IsMaker.placed {i : Nat} {b : Activity} (hm : IsMaker b)
    (behind : MakersBehind after i b) : Placed after i b where
  sub := by
    intro k hk
    rw [hm.subActivities] at hk
    contradiction
  above := by
    intro p hp
    rw [hm.parent] at hp
    contradiction
  target := by
    intro t ht
    rw [Activity.target?_of_not_isReference hm.isReference] at ht
    contradiction
  reference := by
    intro h
    rw [hm.isReference] at h
    contradiction
  maker := behind
  generated := fun _ => hm

end Assembled

variable {m : Materials} {page : Document.Page} {process : Document.Process} {flow : Flow}

/-- Some number of rounds maps all parameters of a page and its process, and this is the flow. -/
def IsBuilt (m : Materials) (page : Document.Page) (process : Document.Process) (flow : Flow) :
    Prop :=
  ∃ rounds arena, (mapRounds (mappingOf m page process) rounds
      (declared m page process).value.arena.length (declared m page process).value.arena).value
        = some arena
    ∧ flow = { (declared m page process).value with arena }

/-- What is assembled is built; the bound on the rounds is one of many numbers. -/
theorem isBuilt_of_assemble (h : (assemble? m page process).value = some flow) :
    IsBuilt m page process flow := by
  simp only [assemble?, Noted.value_bind, Noted.value_pure, Option.map_eq_some_iff] at h
  obtain ⟨arena, harena, rfl⟩ := h
  exact ⟨_, arena, harena, rfl⟩

theorem isBuilt_getD (h : (assemble? m page process).value.isSome = true) :
    IsBuilt m page process ((assemble? m page process).value.getD default) := by
  obtain ⟨flow, hflow⟩ := Option.isSome_iff_exists.mp h
  rw [hflow]
  exact isBuilt_of_assemble hflow

theorem mapRounds_unique (mapping : Mapping) :
    ∀ (rounds rounds' place : Nat) (before after after' : List Activity),
      (mapRounds mapping rounds place before).value = some after →
      (mapRounds mapping rounds' place before).value = some after' → after = after'
  | rounds, rounds', _, [], after, after', h, h' => by
      cases rounds <;> cases rounds' <;> exact Option.some.inj (h.symm.trans h')
  | rounds + 1, rounds' + 1, place, a :: rest, after, after', h, h' => by
      simp only [mapRounds, Noted.value_bind, Noted.value_pure, Option.map_eq_some_iff] at h h'
      obtain ⟨behind, hbehind, rfl⟩ := h
      obtain ⟨behind', hbehind', rfl⟩ := h'
      rw [mapRounds_unique mapping rounds rounds' _ _ _ _ hbehind hbehind']

/-- There is at most one flow of a page and its process. -/
theorem IsBuilt.unique {flow' : Flow} (h : IsBuilt m page process flow)
    (h' : IsBuilt m page process flow') : flow = flow' := by
  obtain ⟨rounds, arena, harena, rfl⟩ := h
  obtain ⟨rounds', arena', harena', rfl⟩ := h'
  rw [mapRounds_unique _ rounds rounds' _ _ _ _ harena harena']

/-- The rounds leave what stood in the arena before, and put makers behind it. -/
theorem IsBuilt.rounded (h : IsBuilt m page process flow) :
    IsRounded flow.arena 0 (declared m page process).value.arena flow.arena := by
  obtain ⟨rounds, after, hafter, rfl⟩ := h
  obtain ⟨laid, _⟩ := declared_laid m page process
  generalize (declared m page process).value = before at hafter laid
  have makers : ∀ a ∈ before.arena, a.makers = [] := by
    intro a ha
    obtain ⟨i, hi⟩ := List.mem_iff_getElem?.mp ha
    obtain ⟨hlt, _⟩ := List.getElem?_eq_some_iff.mp hi
    exact (laid i a (Nat.zero_le i) hlt hi).2.1
  rw [← Nat.zero_add before.arena.length] at hafter
  exact mapRounds_rounded _ _ after before.arena after 0 makers hafter (HasAt.refl after)

/-- **A built flow is in order.** -/
theorem IsBuilt.orderly (h : IsBuilt m page process flow) : Orderly flow := by
  have rounded := h.rounded
  obtain ⟨_, after, _, rfl⟩ := h
  obtain ⟨laid, tops⟩ := declared_laid m page process
  generalize (declared m page process).value = before at laid tops rounded
  constructor
  case placed =>
    intro i b hb
    -- what is not declared was added by a round
    by_cases hi : i < before.arena.length
    · have ha := List.getElem?_eq_getElem hi
      obtain ⟨placed, _, hg⟩ := laid i _ (Nat.zero_le i) hi ha
      obtain ⟨b', hb', retains, behind⟩ := rounded.at ha
      obtain rfl := Option.some.inj (hb.symm.trans hb')
      exact placed.mapped rounded hg retains behind
    · obtain ⟨maker, behind⟩ := rounded.added i b (by omega) hb
      rw [Nat.zero_add] at behind
      exact maker.placed behind
  case top =>
    intro service name k hk
    obtain ⟨a, ha, top⟩ := tops service name k hk
    obtain ⟨b, hb, retains, _⟩ := rounded.at ha
    exact ⟨b, hb, retains.service.trans top.service, retains.parent.trans top.parent,
      retains.isGenerated.trans top.isGenerated⟩

end Pageflow.Flow
