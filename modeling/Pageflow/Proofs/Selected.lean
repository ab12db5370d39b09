/-
  Pageflow.Proofs.Selected — only files that are selected are read, as far as others are candid.

  A value that looks like the description of a file is taken for one, wherever it comes from, and
  the file is read into the request.  So what keeps other files from being read is that nobody
  describes them: neither the values and calls of the host, nor the constants of the documents,
  nor the answers of functions and servers.  In candid traffic whoever is under way asks only for
  files that are selected for the service it is addressed to, or, if that is the process, for any
  service.

  Main definitions: `Candid` and `Reach`.
  Main statements: `Errand.run_keeps`, `watched_of_candid` and `only_selected_files_are_read`.
-/
import Pageflow.Proofs.Alike
import Pageflow.Proofs.Entitled
import Pageflow.Proofs.Traffic
import Pageflow.Proofs.Uploads

namespace Pageflow.Run

open Document (processService)
open Pageflow.Flow (Activity IsBuilt Orderly Strategy)

variable {V P : String → Prop} {Sel : Selection} {flow : Flow} {service name : String}

/-! ## §1. What a host sends. -/

/-- The values of an external call describe no file but those of a set, not even taken together:
a reference passes them on as one value. -/
structure ExternalCall.Fine (V : String → Prop) (c : ExternalCall) : Prop where
  parameters : Run.Fine V c.parameters
  whole : Vouched V (.object (Dict.ofList c.parameters))
  body : ∀ v, c.body = some v → Vouched V v

/-- An errand brings no description of a file but those of a set. -/
def Errand.Fine (V : String → Prop) : Errand → Prop
  | .call c => c.Fine V
  | _ => True

/-- The files that an errand to the service may ask for.  The process has other services run. -/
def Reach (V : String → Prop) (Sel : Selection) (service path : String) : Prop :=
  Known V Sel service path ∨ service = processService ∧ ∃ other, Sel.Has other path

/-- Only the process has references. -/
theorem reach_of_entitled (ho : Orderly flow) {place : Nat} {a : Activity}
    (ha : flow.arena[place]? = some a) {path : String} (h : Entitled V Sel flow a path) :
    Reach V Sel a.service path := by
  rcases h with h | ⟨target, b, ht, _, h⟩
  · exact .inl h
  · have process := (ho.placed place a ha).reference (Activity.isReference_of_target?_eq_some ht)
    exact .inr ⟨process, b.service, h⟩

/-! ## §2. External calls. -/

section Call

variable {place : Nat} {a : Activity} {c : ExternalCall}

/-- A reference has no values of its own. -/
theorem ownValues_keeps (tied : Tied V a)
    (known : ∀ path, Known V Sel a.service path → P path)
    (makers : ∀ k ∈ a.makers, Serves V Sel P (execute flow) k) :
    (parameterValues (maker (execute flow)) a {}).Keeps (terms V Sel P) fun own =>
      Fine (Known V Sel a.service) own ∧ (a.isReference = true → own = []) := by
  cases hr : a.isReference with
  | true =>
    rw [parameterValues_of_bare (tied.bare hr)]
    exact keeps_pure ⟨fine_nil, fun _ => rfl⟩
  | false =>
    refine (parameterValues_keeps tied.plain (fun path h => known path (.inr h))
      Inherited.fine_empty fun k hk => makers k hk {} false Inherited.fine_empty).imp ?_
    intro own fine
    exact ⟨fine, fun reference => by contradiction⟩

/-- The values of a call go over those of the activity; for a reference they are all there is. -/
theorem ExternalCall.Fine.arguments (fine : c.Fine V) {own : Dict Json} {body : Option Json}
    (hown : Run.Fine (Known V Sel a.service) own) (bare : a.isReference = true → own = [])
    (hbody : FineBody (Known V Sel a.service) body) :
    Arguments.Fine (Known V Sel a.service) ⟨own.insertAll c.parameters, body⟩
      ∧ Passes V a ⟨own.insertAll c.parameters, body⟩ := by
  refine ⟨⟨hown.insertAll (fine.parameters.mono fun _ => .inl), hbody⟩, ?_⟩
  intro reference
  rw [bare reference]
  exact fine.whole

theorem callArguments_keeps (tied : Tied V a)
    (known : ∀ path, Known V Sel a.service path → P path) (fine : c.Fine V)
    (makers : ∀ k ∈ a.makers, Serves V Sel P (execute flow) k) :
    (callArguments flow c a).Keeps (terms V Sel P) fun arguments =>
      arguments.Fine (Known V Sel a.service) ∧ Passes V a arguments := by
  have own := ownValues_keeps tied known makers
  have body : (requestBody (maker (execute flow)) a {}).Keeps (terms V Sel P)
      (FineBody (Known V Sel a.service)) :=
    requestBody_keeps tied.plain (fun path h => known path (.inr h)) Inherited.fine_empty
      fun k hk => makers k hk {} false Inherited.fine_empty
  have nothing : (pure [] : Run State ExecutionError (Dict Json)).Keeps (terms V Sel P)
      fun own => Fine (Known V Sel a.service) own ∧ (a.isReference = true → own = []) :=
    keeps_pure ⟨fine_nil, fun _ => rfl⟩
  have brought : ∀ v, c.body = some v → FineBody (Known V Sel a.service) (some v) := by
    rintro v hv _ ⟨⟩
    exact ((fine.body v hv).known a.service).members
  -- own values or none, and a body of the call or one of the activity
  obtain ⟨_, _, parameters, body?, ownValues⟩ := c
  cases ownValues with
  | true =>
    refine keeps_bind own fun values hv => ?_
    cases body? with
    | some value =>
      exact keeps_bind (keeps_pure (brought value rfl)) fun _ hb =>
        keeps_pure (fine.arguments hv.1 hv.2 hb)
    | none => exact keeps_bind body fun _ hb => keeps_pure (fine.arguments hv.1 hv.2 hb)
  | false =>
    refine keeps_bind nothing fun values hv => ?_
    cases body? with
    | some value =>
      exact keeps_bind (keeps_pure (brought value rfl)) fun _ hb =>
        keeps_pure (fine.arguments hv.1 hv.2 hb)
    | none => exact keeps_bind body fun _ hb => keeps_pure (fine.arguments hv.1 hv.2 hb)

theorem callOnly_keeps (tied : Tied V a)
    (known : ∀ path, Known V Sel a.service path → P path) (fine : c.Fine V)
    (callees : ∀ k ∈ a.callees, Serves V Sel P (execute flow) k) :
    (callOnly flow c place a).Keeps (terms V Sel P) (Vouched V) := by
  unfold callOnly
  split
  · exact keeps_fail _
  next strategy hs =>
    have arguments := callArguments_keeps tied known fine
      fun k hk => callees k (Activity.mem_callees.mpr (.inl hk))
    refine keeps_bind (keeps_mapError arguments) ?_
    intro arguments given
    exact keeps_mapError (dispatch_keeps tied known hs given.1 given.2
      fun k hk => callees k (Activity.mem_callees.mpr (.inr (.inl hk))))

end Call

/-! ## §3. Errands. -/

theorem start_keeps (service name : String) :
    (start service name).Keeps (terms V Sel P) fun _ => True := by
  refine keeps_get_bind ?_
  intro s _
  split
  · exact keeps_fail _
  · exact modify_keeps fun _ hs => Honest.setRunning hs service (some name)

theorem guarded_keeps {α : Type} {E : α → Prop} {r : Run State HostError α}
    (h : r.Keeps (terms V Sel P) E) : (guarded service name r).Keeps (terms V Sel P) E := by
  refine keeps_bind (start_keeps service name) fun _ _ => ?_
  refine keeps_bind (keeps_attempt h) fun outcome ho => ?_
  refine keeps_bind (modify_keeps fun _ hs => Honest.release hs service) fun _ _ => ?_
  exact keeps_ofExcept ho

theorem runTop_keeps {place : Nat} {a : Activity} {shows : Bool}
    (h : Serves V Sel P (execute flow) place) :
    (runTop flow service name place a shows).Keeps (terms V Sel P) (Vouched V) := by
  refine keeps_bind (keeps_attempt (h {} shows Inherited.fine_empty)) ?_
  intro outcome vouched
  split
  · exact keeps_pure (vouched _ rfl)
  · refine keeps_bind (modify_keeps fun _ => Honest.emit _) ?_
    intro _ _
    exact keeps_fail _

theorem runSteps_keeps
    (h : ∀ name place a, knownActivity flow service name = .ok (place, a) →
      Serves V Sel P (execute flow) place) :
    ∀ names, (runSteps flow service names).Keeps (terms V Sel P) fun _ => True
  | [] => keeps_pure trivial
  | name :: rest => by
      have found : (ofExcept (knownActivity flow service name) :
          Run State HostError (Nat × Activity)).Keeps (terms V Sel P)
            fun found => knownActivity flow service name = .ok found :=
        keeps_ofExcept fun _ => id
      refine keeps_bind found fun found known => ?_
      refine keeps_bind (runTop_keeps (h name found.1 found.2 known)) fun _ _ => ?_
      refine keeps_bind (runSteps_keeps h rest) fun _ _ => ?_
      exact keeps_pure trivial

theorem autostartServices_keeps
    (h : ∀ service name, (executeActivity flow service name true).Keeps (terms V Sel P)
      fun _ => True) :
    ∀ services, (autostartServices flow services).Keeps (terms V Sel P) fun _ => True := by
  have steps : ∀ service names,
      (autostartSteps flow service names).Keeps (terms V Sel P) fun _ => True := by
    intro service names
    induction names with
    | nil => exact keeps_pure trivial
    | cons name rest ih =>
      refine keeps_bind (note_keeps _) fun _ _ => ?_
      exact keeps_bind (keeps_mapError (h service name)) fun _ _ => ih
  intro services
  induction services with
  | nil => exact keeps_pure trivial
  | cons s rest ih =>
    refine keeps_bind ?_ fun _ (_ : True) => ih
    -- a service runs all that it is to run, or none if one of the names is unknown
    unfold autostartService
    simp only
    split
    · exact steps _ _
    · exact note_keeps _

section Errands

variable (ho : Orderly flow) (tied : ∀ a ∈ flow.arena, Tied V a)

include ho tied

/-- What stands at the top of a service asks for what the service may ask for. -/
theorem serves_of_knownActivity {place : Nat} {a : Activity}
    (h : knownActivity flow service name = .ok (place, a)) :
    Serves V Sel (Reach V Sel service) (execute flow) place := by
  obtain ⟨hf, ha⟩ := getElem?_of_knownActivity h
  obtain ⟨b, hb, rfl, _⟩ := ho.top service name place hf
  obtain rfl := Option.some.inj (ha.symm.trans hb)
  exact (execute_keeps ho tied place a ha).mono fun path => reach_of_entitled ho ha

/-- **An errand asks only for files that its service may ask for**, as far as it is candid
itself. -/
theorem Errand.work_keeps {e : Errand} (fine : e.Fine V) {work : Run State HostError Json}
    (hw : e.work? flow = .ok (name, work)) :
    work.Keeps (terms V Sel (Reach V Sel e.service)) fun _ => True := by
  cases e with
  | activity service name shows =>
    obtain ⟨⟨place, a⟩, h, heq⟩ := exists_of_map_eq_ok hw
    obtain ⟨rfl, rfl⟩ := Prod.mk.inj heq
    have serves : Serves V Sel (Reach V Sel service) (execute flow) place :=
      serves_of_knownActivity ho tied (knownActivity_of_knownTop h)
    exact (runTop_keeps serves).imp fun _ _ => trivial
  | sequence service' name =>
    obtain ⟨names, _, heq⟩ := exists_of_map_eq_ok hw
    obtain ⟨rfl, rfl⟩ := Prod.mk.inj heq
    refine keeps_bind (runSteps_keeps ?_ names) fun _ _ => keeps_pure trivial
    intro name place a h
    exact serves_of_knownActivity ho tied h
  | call c =>
    obtain ⟨⟨place, a⟩, h, heq⟩ := exists_of_map_eq_ok hw
    obtain ⟨rfl, rfl⟩ := Prod.mk.inj heq
    obtain ⟨hf, ha⟩ := getElem?_of_knownActivity (knownActivity_of_knownTop h)
    obtain ⟨b, hb, own, _⟩ := ho.top c.service c.activity place hf
    obtain rfl := Option.some.inj (ha.symm.trans hb)
    have reach : ∀ path, Entitled V Sel flow a path → Reach V Sel c.service path :=
      fun path h => own ▸ reach_of_entitled ho ha h
    refine (callOnly_keeps (tied a (List.mem_of_getElem? ha)) (fun path h => reach path (.inl h))
      fine ?_).imp fun _ _ => trivial
    intro k hk
    obtain ⟨b, hb, entitled⟩ := entitled_of_calls ho ha hk
    exact (execute_keeps ho tied k b hb).mono fun path h => reach path (entitled path h)

theorem Errand.run_keeps {e : Errand} (fine : e.Fine V) {s : State} (hs : Honest V Sel s) :
    (e.run flow s).Keeps (terms V Sel (Reach V Sel e.service)) fun _ => True := by
  have told : ∀ failure t, Honest V Sel t → Honest V Sel (e.told failure t) := by
    intro failure t ht
    cases e with
    | call c => exact ht.display _
    | _ => exact ht
  rw [Errand.run_eq]
  split
  next name work hw =>
    refine (guarded_keeps (Errand.work_keeps ho tied fine hw) s hs).bind ?_
    intro outcome t _ ht
    refine ⟨?_, trivial⟩
    cases outcome with
    | ok _ => exact ht
    | error failure => exact told failure t ht
  next failure _ => exact ⟨told failure s hs, trivial⟩

/-- **Starting up asks only for files that are selected for some service.** -/
theorem autostart_keeps : (autostart flow).Keeps
    (terms V Sel fun path => V path ∨ ∃ service, Sel.Has service path) fun _ => True := by
  refine autostartServices_keeps ?_ flow.allServices
  intro service name s hs
  have fine : (Errand.activity service name true).Fine V := trivial
  have run : ((Errand.activity service name true).run flow s).Keeps
      (terms V Sel (Reach V Sel service)) fun _ => True := Errand.run_keeps ho tied fine hs
  refine run.mono ?_ fun _ _ _ _ => trivial
  intro q asks path hp
  rcases asks path hp with (h | h) | ⟨_, h⟩
  · exact .inl h
  · exact .inr ⟨service, h⟩
  · exact .inr h

end Errands

/-! ## §4. Traffic. -/

/-- Traffic in which nothing from outside describes a file but those of a set, and in which the
host selects no other files than it ever does. -/
inductive Candid (V : String → Prop) (Sel : Selection) (flow : Flow) : Traffic → Prop
  | opening : Candid V Sel flow (Traffic.opening flow)
  /-- A candid errand is sent. -/
  | begin {v w : Traffic} (hv : Candid V Sel flow v) (e : Errand) (fine : e.Fine V)
      (h : Traffic.after v.flights e.service (e.run flow v.state) = some w) : Candid V Sel flow w
  /-- One under way gets a candid answer. -/
  | answer {v w : Traffic} (hv : Candid V Sel flow v) {before behind : List Flight} {f : Flight}
      (hf : v.flights = before ++ f :: behind) (answer : f.query.Answer)
      (fine : Answered V f.query answer)
      (h : Traffic.after (before ++ behind) f.service (f.resume answer v.state) = some w) :
      Candid V Sel flow w
  /-- One under way is given up, and its service is free again. -/
  | abandon {v : Traffic} (hv : Candid V Sel flow v) {before behind : List Flight} {f : Flight}
      (hf : v.flights = before ++ f :: behind) :
      Candid V Sel flow ⟨v.state.release f.service, before ++ behind⟩
  /-- The host lends something else. -/
  | lend {v : Traffic} (hv : Candid V Sel flow v) (query : Dict String)
      {values : Dict (Dict Json)} {files : Dict (Dict String)} (listener : Listener)
      (selected : ∀ service inputs input path, files.get? service = some inputs →
        inputs.get? input = some path → Sel service input path)
      (fine : ∀ service inputs, values.get? service = some inputs → Fine V inputs) :
      Candid V Sel flow ⟨{ v.state with query, values, files, listener }, v.flights⟩

/-- What is under way asks for a file that its service may ask for, and will. -/
def Watched (V : String → Prop) (Sel : Selection) (f : Flight) : Prop :=
  (terms V Sel (Reach V Sel f.service)).question f.query
    ∧ ∀ answer s, Answered V f.query answer → Honest V Sel s →
        (f.resume answer s).Keeps (terms V Sel (Reach V Sel f.service)) fun _ => True

/-- A stretch of an errand leaves the state honest, and what is under way watched. -/
theorem watched_of_after {others : List Flight} {w : Traffic}
    {task : Task State (Except HostError Json)}
    (keeps : task.Keeps (terms V Sel (Reach V Sel service)) fun _ => True)
    (rest : ∀ f ∈ others, Watched V Sel f) (h : Traffic.after others service task = some w) :
    Honest V Sel w.state ∧ ∀ f ∈ w.flights, Watched V Sel f := by
  cases task with
  | done outcome s =>
    obtain rfl := Option.some.inj h
    exact ⟨keeps.1, rest⟩
  | endless => contradiction
  | ask q s resume =>
    obtain rfl := Option.some.inj h
    exact ⟨keeps.2.1, List.forall_mem_cons.mpr ⟨⟨keeps.1, keeps.2.2⟩, rest⟩⟩

/-- **In candid traffic the state is honest, and whatever is under way asks only for files that
its service may ask for.** -/
theorem watched_of_candid (ho : Orderly flow) (start : Honest V Sel (initial flow))
    (tied : ∀ a ∈ flow.arena, Tied V a) {v : Traffic} (h : Candid V Sel flow v) :
    Honest V Sel v.state ∧ ∀ f ∈ v.flights, Watched V Sel f := by
  induction h with
  | opening => exact ⟨start, fun f hf => absurd hf List.not_mem_nil⟩
  | begin _ e fine h ih =>
    exact watched_of_after (Errand.run_keeps ho tied fine ih.1) ih.2 h
  -- the others were watched before, and a stretch of one does not touch them
  | answer _ hf answer fine h ih =>
    obtain ⟨own, rest⟩ := Traffic.forall_parted hf ih.2
    exact watched_of_after (own.2 answer _ fine ih.1) rest h
  | abandon _ hf ih => exact ⟨ih.1.release _, (Traffic.forall_parted hf ih.2).2⟩
  | lend _ query listener selected fine ih =>
    exact ⟨ih.1.lend query listener selected fine, ih.2⟩

/-- **Only selected files are read**, as far as others are candid.  A page is loaded, and nothing
in its constants, and nothing that comes from functions, servers or the host, describes a file but
those of a set.  Then whatever is under way asks only for files of this set, and for those that
are selected for the service it is addressed to, or for any if that is the process; and so does
starting up.  An activity, with all inside it, asks only for files that are selected for an input
of its own service; a reference also has its target ask for those of the service of the target. -/
theorem only_selected_files_are_read {σ : Type} [Journal σ] {registry : Registry}
    {options : Load.Options} {page : Document.Page} {base : Load.Location} {s t : σ}
    (loaded : (Load.loadDocument registry options page base s).Ends (.ok flow) t)
    (plain : ∀ a ∈ flow.arena, Plain V a) (Sel : Selection) :
    (∀ v, Candid V Sel flow v → ∀ f ∈ v.flights, ∀ path, f.query.file? = some path →
      V path ∨ Sel.Has f.service path ∨ f.service = processService ∧ ∃ other, Sel.Has other path)
    ∧ (autostart flow).Keeps (terms V Sel fun path => V path ∨ ∃ service, Sel.Has service path)
        (fun _ => True)
    ∧ ∀ place a, flow.arena[place]? = some a → ∀ before shows, before.Fine V →
        (execute flow place before shows).Keeps
          (terms V Sel fun path => V path ∨ Sel.Has a.service path
            ∨ ∃ target b, a.target? = some target ∧ flow.arena[target]? = some b
                ∧ Sel.Has b.service path)
          (Vouched V) := by
  obtain ⟨process, m, built, owned⟩ := Load.owned_of_ends loaded
  have ho := built.orderly
  have tied : ∀ a ∈ flow.arena, Tied V a := fun a ha =>
    ⟨plain a ha, built.backed owned ha, built.bare ha⟩
  refine ⟨?_, autostart_keeps ho tied, ?_⟩
  · intro v hv f hf path asks
    obtain ⟨_, watched⟩ := watched_of_candid ho (honest_initial built V Sel) tied hv
    rcases (watched f hf).1 path asks with (h | h) | h
    · exact .inl h
    · exact .inr (.inl h)
    · exact .inr (.inr h)
  · intro place a ha before shows fine
    refine (execute_keeps ho tied place a ha before shows fine).mono ?_ fun _ => id
    intro q asks path hp
    rcases asks path hp with (h | h) | h
    · exact .inl h
    · exact .inr (.inl h)
    · exact .inr (.inr h)

/-! ## §5. A page that uploads. -/

/-- An OpenAPI document with an operation that takes parts. -/
def uploadsApi : Json :=
  .object [("openapi", .string "3.0.3"),
    ("servers", .array [.object [("url", .string "https://api.example.com")]]),
    ("paths", .object [
      ("/files", .object [("post", .object [("operationId", .string "upload"),
        ("requestBody", .object [("content", .object [("multipart/form-data", .object [])])])])])])]

/-- A page whose service uploads a report that is selected, and whatever a function gives. -/
def uploadsPage : Document.Page where
  title := "Files page"
  services := [("files", {})]
  process := { inline := some {
    title := "Files"
    scriptUri := some "mod:files"
    services := [("files",
      { title := "Files"
        ui := { fileInputs := [("report", { keepAsFile := true })] }
        bridge := some { source := { inline := some {
          execute := { openApi := some uploadsApi }
          capabilities := [
            ("upload", { operation := some { operationId := some "upload" } })] } } }
        activities := [
          ("publish",
            { title := "Publish"
              bridgeCapability := some "upload"
              requestBody := some [("document", { fileInput := some "report" })] }),
          ("latest",
            { title := "Latest"
              moduleFunction := some "latest"
              subActivities := [("send",
                { title := "Send"
                  bridgeCapability := some "upload"
                  requestBody := some [("document", { parent := true })] })] })] })] } }

/-- Loads the page, with a module of one function. -/
def loadedUploads : Task (List Note) (Except Load.LoadError Flow) :=
  Load.loadDocument [("mod:files", [("latest", ⟨"files", "latest", []⟩)])] {} uploadsPage
    (.file "page.json") []

/-- The flow of the page: to publish, to get the latest, and to send it. -/
def uploadsFlow : Flow :=
  ((loadedUploads.finish nullAnswers ()).1.bind fun r => r.1.toOption).getD default

/-- A task that ends well if nobody answers ends with its value. -/
theorem ends_getD {σ ε α : Type} [Inhabited α] {task : Task σ (Except ε α)}
    (h : (task.finish nullAnswers ()).1.any (fun r => r.1.toBool) = true) :
    ∃ t, task.Ends
      (.ok (((task.finish nullAnswers ()).1.bind fun r => r.1.toOption).getD default)) t := by
  obtain ⟨⟨outcome, t⟩, hr, ok⟩ := (Option.any_eq_true _ _).mp h
  cases outcome with
  | error e => contradiction
  | ok value =>
    rw [hr]
    exact ⟨t, Task.ends_of_finish _ (Prod.ext hr rfl)⟩

theorem uploadsFlow_loaded : ∃ t, loadedUploads.Ends (.ok uploadsFlow) t :=
  ends_getD (by decide +kernel)

/-- The report is the file that is selected. -/
def reportSelected : Selection := fun service input path =>
  service = "files" ∧ input = "report" ∧ path = "report.pdf"

/-- The host selects the report before anything is sent. -/
def reportLent : Traffic :=
  ⟨{ initial uploadsFlow with files := [("files", [("report", "report.pdf")])] }, []⟩

theorem candid_reportLent (V : String → Prop) : Candid V reportSelected uploadsFlow reportLent := by
  refine .lend .opening [] .absent ?_ ?_
  · intro service inputs input path hs hi
    have files := Dict.mem_of_get? hs
    obtain ⟨rfl, rfl⟩ := Prod.mk.inj (List.mem_singleton.mp files)
    obtain ⟨rfl, rfl⟩ := Prod.mk.inj (List.mem_singleton.mp (Dict.mem_of_get? hi))
    exact ⟨rfl, rfl, rfl⟩
  · intro service inputs h
    contradiction

/-- No constants, and no results in place of calls. -/
theorem plain_uploads (V : String → Prop) : ∀ a ∈ uploadsFlow.arena, Plain V a := by
  have sources : ∀ a ∈ uploadsFlow.arena, a.overrides = none
      ∧ ∀ source ∈ a.sources, source ∈ [.fileInput "report", .parentResult] := by decide +kernel
  intro a ha
  obtain ⟨none, own⟩ := sources a ha
  constructor
  · intro v hv
    have := own _ hv
    simp at this
  · rw [skippedResult, none]
    exact vouched_empty

/-- With the report selected, publishing asks for it, and nothing else needs to be known. -/
theorem only_selected_files_are_read_uploads :
    (∃ t, loadedUploads.Ends (.ok uploadsFlow) t)
    ∧ (∀ a ∈ uploadsFlow.arena, Plain (fun _ => False) a)
    ∧ ∃ v, Candid (fun _ => False) reportSelected uploadsFlow v
      ∧ ∃ f ∈ v.flights, f.query.file? = some "report.pdf"
        ∧ (False ∨ reportSelected.Has f.service "report.pdf"
          ∨ f.service = processService ∧ ∃ other, reportSelected.Has other "report.pdf") := by
  obtain ⟨t, loaded⟩ := uploadsFlow_loaded
  have plain := plain_uploads fun _ => False
  have asks : (Traffic.send uploadsFlow (.activity "files" "publish" true) reportLent).any
      (fun v => v.flights.any fun f => f.query.file? = some "report.pdf") = true := by
    decide +kernel
  obtain ⟨v, sent, found⟩ := (Option.any_eq_true _ _).mp asks
  obtain ⟨f, hf, file⟩ := List.any_eq_true.mp found
  have candid : Candid (fun _ => False) reportSelected uploadsFlow v :=
    .begin (candid_reportLent _) (.activity "files" "publish" true) trivial sent
  have only := (only_selected_files_are_read loaded plain reportSelected).1
  exact ⟨⟨t, loaded⟩, plain, v, candid, f, hf, of_decide_eq_true file,
    only v candid f hf _ (of_decide_eq_true file)⟩

/-- What a file says that nobody has selected. -/
def secret : Bytes := "top secret".toList.map fun c => c.toNat.toUInt8

/-- A function that describes the file with the secret, a disk that has it, and a server that
takes anything. -/
def latestAnswers : Task.Environment Unit
  | .call _ _, world =>
    (.ok (.value (.object [("name", .string "a.txt"), ("path", .string "secret.txt"),
      ("size", .integer 1)])), world)
  | .send _, world => (.ok { status := 200 }, world)
  | q, world => shelf [("secret.txt", secret)] q world

/-- The parts that a request brings. -/
def broughtBy : Query → List (String × Http.Part)
  | .send request =>
    match request.body with
    | .multipart parts => parts
    | _ => []
  | _ => []

/-- No file is selected, but the result of a function describes one; it is read, and a request
brings its content. -/
theorem described_file_is_uploaded :
    (∀ service input, (initial uploadsFlow).file? service input = none)
    ∧ ((executeActivity uploadsFlow "files" "latest" true (initial uploadsFlow)).asked
        latestAnswers ()).filterMap Query.file? = ["secret.txt"]
    ∧ ((executeActivity uploadsFlow "files" "latest" true (initial uploadsFlow)).asked
        latestAnswers ()).flatMap broughtBy = [("document", .bytes (some "a.txt") secret)] := by
  refine ⟨fun _ _ => rfl, ?_, ?_⟩
  all_goals decide +kernel

end Pageflow.Run
