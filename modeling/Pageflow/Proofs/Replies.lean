/-
  Pageflow.Proofs.Replies — the replies that lead a strategy to its result.

  To find out the server and the credentials of a call, and to write its request, nothing is asked
  for but files.  So the replies that a strategy of its own gets are few: the output of its
  function, or the response to its request and the files before it, and then the output of the
  function that changes the result, if there is one.  What such an output carries is the result.

  Main definitions: `AsksFiles`, `Unwraps`, `Hooked` and `Yields`.
  Main statement: `yields_of_goes`.
-/
import Pageflow.Proofs.Chronicle
import Pageflow.Proofs.Keeping

namespace Pageflow

/-- A file is read or measured. -/
def Query.IsAboutFile : Query → Prop
  | .fileBytes _ | .fileSize _ => True
  | _ => False

/-- A task that relies on nothing asks no other questions than its terms say. -/
theorem Task.Keeps.questions {σ α : Type} {T : Terms σ} {E : α → Prop} {x : α} {t : σ}
    (state : ∀ s, T.state s) (answer : ∀ q a, T.answer q a) :
    ∀ {task : Task σ α} {replies : List Reply}, task.Keeps T E → task.Goes replies x t →
      ∀ r ∈ replies, T.question r.1
  | .done _ _, _, _, ⟨rfl, _, _⟩, r, hr => absurd hr List.not_mem_nil
  | .ask _ _ _, _, ⟨own, _, goesOn⟩, ⟨a, u, rest, rfl, goes⟩, r, hr => by
      rcases List.mem_cons.mp hr with rfl | hr
      · exact own
      · exact questions state answer (goesOn a u (answer _ a) (state u)) goes r hr

/-- The function that changes the results of a strategy, if there is one. -/
def Flow.Strategy.postProcess : Flow.Strategy → Option Function
  | .remote o => o.postProcess
  | .capability c => c.postProcess
  | .function _ | .reference _ => none

namespace Run

open Pageflow.Flow (Strategy)

/-! ## §1. What is asked before a request. -/

/-- Nothing is relied on, and only files are asked for. -/
abbrev fileTerms (σ : Type) : Terms σ where
  state _ := True
  answer _ _ := True
  question := Query.IsAboutFile

/-- The run asks for files only. -/
def AsksFiles {σ ε α : Type} (r : Run σ ε α) : Prop := r.Keeps (fileTerms σ) fun _ => True

section Files

variable {σ ε δ α β : Type}

theorem asksFiles_pure (a : α) : AsksFiles (Pure.pure a : Run σ ε α) := keeps_pure trivial

theorem asksFiles_fail (e : ε) : AsksFiles (fail e : Run σ ε α) := keeps_fail e

theorem asksFiles_bind {r : Run σ ε α} {next : α → Run σ ε β} (hr : AsksFiles r)
    (hn : ∀ a, AsksFiles (next a)) : AsksFiles (r >>= next) :=
  keeps_bind hr fun a _ => hn a

theorem asksFiles_ask {q : Query} (h : q.IsAboutFile) : AsksFiles (ask q : Run σ ε q.Answer) :=
  keeps_ask h

theorem asksFiles_ofExcept (x : Except ε α) : AsksFiles (ofExcept x : Run σ ε α) :=
  keeps_ofExcept fun _ _ => trivial

theorem asksFiles_attempt {r : Run σ ε α} (h : AsksFiles r) :
    AsksFiles (attempt r : Run σ δ (Except ε α)) :=
  (keeps_attempt h).imp fun _ _ => trivial

theorem asksFiles_get {next : σ → Run σ ε α} (h : ∀ s, AsksFiles (next s)) :
    AsksFiles ((get : Run σ ε σ) >>= next) :=
  keeps_get_bind fun s _ => h s

theorem asksFiles_note [Journal σ] (n : Note) : AsksFiles (note n : Run σ ε Unit) :=
  keeps_note (fun _ _ => id) n

theorem readFile_asksFiles (path : String) : AsksFiles (readFile path : Run σ _ _) := by
  refine asksFiles_bind (asksFiles_ask trivial) fun answer => ?_
  split
  · exact asksFiles_pure _
  · exact asksFiles_fail _

theorem readFileInput_asksFiles (f : Document.FileInput) (path : String) :
    AsksFiles (readFileInput f path : Run σ _ _) := by
  unfold readFileInput
  split
  · refine asksFiles_bind ?_ fun _ => asksFiles_pure _
    refine asksFiles_bind (asksFiles_ask trivial) fun answer => ?_
    split
    · exact asksFiles_pure _
    · exact asksFiles_fail _
  · refine asksFiles_bind (readFile_asksFiles path) fun bytes => ?_
    split
    · exact asksFiles_pure _
    split
    · exact asksFiles_pure _
    · exact asksFiles_fail _

end Files

variable {ε : Type}

theorem inputValue_asksFiles (i : Flow.Input) : AsksFiles (inputValue i) := by
  refine asksFiles_get fun s => ?_
  split
  · split
    · exact readFileInput_asksFiles _ _
    · exact asksFiles_pure _
  · exact asksFiles_pure _

theorem textOf_asksFiles (service : String) (source : Document.ValueSource) :
    AsksFiles (textOf service source : Run State ε _) := by
  cases source with
  | literal text => exact asksFiles_pure _
  | constant text => exact asksFiles_pure _
  | queryParam name => exact asksFiles_get fun _ => asksFiles_pure _
  | field name =>
    refine asksFiles_get fun s => ?_
    split
    · exact asksFiles_pure _
    · refine asksFiles_bind (asksFiles_attempt (inputValue_asksFiles _)) fun outcome => ?_
      split
      · exact asksFiles_pure _
      · exact asksFiles_pure _
      · exact asksFiles_bind (asksFiles_note _) fun _ => asksFiles_pure _

theorem credentials_asksFiles (service : String) :
    ∀ sources, AsksFiles (credentials service sources : Run State ε _)
  | [] => asksFiles_pure _
  | (_, source) :: rest => by
      refine asksFiles_bind (textOf_asksFiles service source) fun text => ?_
      split
      · exact asksFiles_bind (credentials_asksFiles service rest) fun _ => asksFiles_pure _
      · exact asksFiles_bind (asksFiles_note _) fun _ => credentials_asksFiles service rest

theorem endpoint_asksFiles (backend : Remote.Backend) :
    AsksFiles (endpoint backend : Run State ε _) := by
  have rest (server : Option String) : AsksFiles (credentials backend.service
      backend.authorization >>= fun credentials =>
        Pure.pure { server, credentials } : Run State ε Remote.Endpoint) :=
    asksFiles_bind (credentials_asksFiles _ _) fun _ => asksFiles_pure _
  unfold endpoint
  split
  · exact asksFiles_bind (textOf_asksFiles _ _) fun server => rest server
  · exact rest none

theorem parts_asksFiles {σ : Type} : ∀ members, AsksFiles (Remote.parts members : Run σ _ _)
  | [] => asksFiles_pure _
  | (_, value) :: rest => by
      refine asksFiles_bind ?_ fun _ =>
        asksFiles_bind (parts_asksFiles rest) fun _ => asksFiles_pure _
      unfold Remote.part
      split
      · exact asksFiles_bind (readFile_asksFiles _) fun _ => asksFiles_pure _
      · split <;> exact asksFiles_pure _

theorem body_asksFiles {σ : Type} [Journal σ] (o : Remote.Operation) (value : Option Json) :
    AsksFiles (o.body value : Run σ _ _) := by
  unfold Remote.Operation.body
  split
  · exact asksFiles_pure _
  · exact asksFiles_pure _
  · exact asksFiles_bind (parts_asksFiles _) fun _ => asksFiles_pure _
  · exact asksFiles_bind (asksFiles_note _) fun _ => asksFiles_pure _

theorem request_asksFiles {σ : Type} [Journal σ] (o : Remote.Operation)
    (endpoint : Remote.Endpoint) (parameters : Dict Json) (value : Option Json) :
    AsksFiles (o.request endpoint parameters value : Run σ _ _) := by
  refine asksFiles_bind (asksFiles_ofExcept _) fun server => ?_
  refine asksFiles_bind (asksFiles_ofExcept _) fun url => ?_
  refine asksFiles_bind (keeps_notes (fun _ _ => id) _) fun _ => ?_
  refine asksFiles_bind (asksFiles_ofExcept _) fun method => ?_
  exact asksFiles_bind (body_asksFiles o value) fun _ => asksFiles_pure _

/-! ## §2. Replies to runs. -/

section Goes

variable {σ ε δ α β : Type} {s t : σ} {replies : List Reply}

theorem goes_files {r : Run σ ε α} (h : AsksFiles r) {x : Except ε α}
    (goes : (r s).Goes replies x t) : ∀ reply ∈ replies, reply.1.IsAboutFile :=
  (h s trivial).questions (fun _ => trivial) (fun _ _ => trivial) goes

/-- A run in two parts that ends well has got replies to both. -/
theorem goes_bind_ok {r : Run σ ε α} {next : α → Run σ ε β} {b : β}
    (h : ((r >>= next) s).Goes replies (.ok b) t) :
    ∃ first last a u, replies = first ++ last ∧ (r s).Goes first (.ok a) u
      ∧ (next a u).Goes last (.ok b) t := by
  obtain ⟨first, last, x, u, rfl, hr, hn⟩ := Task.goes_bind.mp h
  cases x with
  | ok a => exact ⟨first, last, a, u, rfl, hr, hn⟩
  | error e =>
    obtain ⟨_, h, _⟩ := hn
    contradiction

theorem goes_mapError_ok {r : Run σ ε α} {f : ε → δ} {a : α}
    (h : ((r.mapError f) s).Goes replies (.ok a) t) : (r s).Goes replies (.ok a) t := by
  obtain ⟨first, last, x, u, rfl, hr, rfl, hx, rfl⟩ := Task.goes_bind.mp h
  cases x with
  | ok a' =>
    obtain rfl := Except.ok.inj hx
    rwa [List.append_nil]
  | error e => contradiction

theorem goes_ofExcept_ok {x : Except ε α} {a : α}
    (h : ((ofExcept x : Run σ ε α) s).Goes replies (.ok a) t) : replies = [] ∧ x = .ok a := by
  cases x with
  | ok a' => exact ⟨h.1, congrArg Except.ok (Except.ok.inj h.2.1)⟩
  | error e =>
    obtain ⟨_, h, _⟩ := h
    contradiction

theorem goes_note [Journal σ] {n : Note} {x : Except ε Unit}
    (h : ((note n : Run σ ε Unit) s).Goes replies x t) : replies = [] := h.1

/-- The function was called and gave an output. -/
theorem goes_call_ok {f : Function} {arguments : List Json} {output : Output}
    (h : ((call f arguments : Run σ Fault Output) s).Goes replies (.ok output) t) :
    replies = [⟨.call f arguments, .ok output⟩] := by
  obtain ⟨answer, u, rest, rfl, rfl, rfl, _⟩ := h
  rfl

/-- The request was sent and answered with a response. -/
theorem goes_send_ok {request : Http.Request} {response : Http.Response}
    (h : ((Remote.Operation.send request : Run σ _ _) s).Goes replies (.ok response) t) :
    replies = [⟨.send request, .ok response⟩] := by
  obtain ⟨_, _, answer, u, rfl, asked, given⟩ := goes_bind_ok h
  obtain ⟨answer, _, _, rfl, rfl, ⟨⟩, _⟩ := asked
  cases answer with
  | ok response =>
    obtain ⟨rfl, ⟨⟩, _⟩ := given
    rfl
  | error e =>
    obtain ⟨_, failed, _⟩ := given
    contradiction

/-! ## §3. Replies to strategies. -/

/-- The replies to a function that changes a result, and the result that it gives; without one the
result stays as it is. -/
inductive Hooked : Option Function → Json → List Reply → Json → Prop
  | nothing (value : Json) : Hooked none value [] value
  | output {f : Function} {value result : Json} {output : Output}
      (h : output.result = .ok result) :
      Hooked (some f) value [⟨.call f [value], .ok output⟩] result

/-- The replies that lead a strategy of its own to a value, before a function changes it: the
output of its function, or the response to its request and the files before it. -/
inductive Unwraps : Strategy → List Reply → Json → Prop
  | function {f : Function} {arguments : List Json} {output : Output} {value : Json}
      (h : output.result = .ok value) :
      Unwraps (.function f) [⟨.call f arguments, .ok output⟩] value
  | remote {o : Remote.Operation} {files : List Reply} {request : Http.Request}
      {response : Http.Response} {value : Json} (before : ∀ reply ∈ files, reply.1.IsAboutFile)
      (h : o.interpret response = .ok value) :
      Unwraps (.remote o) (files ++ [⟨.send request, .ok response⟩]) value
  | capability {c : ModuleCapability} {arguments : List Json} {output : Output} {value : Json}
      (h : output.result = .ok value) :
      Unwraps (.capability c) [⟨.call c.function arguments, .ok output⟩] value

/-- The replies that lead a strategy of its own to a result: those that lead it to a value, and
then that of the function which changes the value. -/
inductive Yields (strategy : Strategy) : List Reply → Json → Prop
  | intro {first rest : List Reply} {value result : Json} (unwraps : Unwraps strategy first value)
      (hooked : Hooked strategy.postProcess value rest result) :
      Yields strategy (first ++ rest) result

/-- Files may be read before a request. -/
theorem Yields.after_files {o : Remote.Operation} {files : List Reply} {result : Json}
    (h : Yields (.remote o) replies result)
    (before : ∀ reply ∈ files, reply.1.IsAboutFile) :
    Yields (.remote o) (files ++ replies) result := by
  obtain ⟨unwraps, hooked⟩ := h
  obtain ⟨_, _⟩ | ⟨own, value_eq⟩ := unwraps
  rw [← List.append_assoc, ← List.append_assoc]
  refine .intro (.remote (fun reply h => ?_) value_eq) hooked
  exact (List.mem_append.mp h).elim (before reply) (own reply)

theorem goes_callNamed_ok {f : Function} {parameters : Dict Json} {body : Option Json}
    {g : Fault → δ} {next : Output → Run σ δ β} {b : β}
    (h : (((callNamed f parameters body).mapError g >>= next) s).Goes replies (.ok b) t) :
    ∃ output rest u, replies = ⟨.call f (f.arguments parameters body), .ok output⟩ :: rest
      ∧ (next output u).Goes rest (.ok b) t := by
  obtain ⟨first, rest, output, u, rfl, called, goesOn⟩ := goes_bind_ok h
  obtain rfl := goes_call_ok (goes_mapError_ok called)
  exact ⟨output, rest, u, rfl, goesOn⟩

theorem goes_callPostProcess_ok {f? : Option Function} {value result : Json}
    (h : ((callPostProcess f? value : Run σ _ _) s).Goes replies (.ok result) t) :
    Hooked f? value replies result := by
  cases f? with
  | none =>
    obtain ⟨rfl, hv, _⟩ := h
    obtain rfl := Except.ok.inj hv
    exact .nothing value
  | some f =>
    obtain ⟨first, rest, output, u, rfl, called, carried⟩ := goes_bind_ok h
    obtain rfl := goes_call_ok (goes_mapError_ok called)
    obtain ⟨rfl, result_eq⟩ := goes_ofExcept_ok carried
    exact .output result_eq

variable [Journal σ]

theorem goes_callCapability_ok {c : ModuleCapability} {parameters : Dict Json}
    {body : Option Json} {result : Json}
    (h : ((callCapability c parameters body : Run σ _ _) s).Goes replies (.ok result) t) :
    Yields (.capability c) replies result := by
  obtain ⟨_, _, _, u, rfl, noted, called⟩ := goes_bind_ok h
  obtain rfl := goes_note noted
  obtain ⟨output, rest, v, rfl, goesOn⟩ := goes_callNamed_ok called
  split at goesOn
  · -- `null` is no response
    obtain ⟨_, failed, _⟩ := goesOn
    contradiction
  · obtain ⟨_, rest, value, w, rfl, carried, changed⟩ := goes_bind_ok goesOn
    obtain ⟨rfl, value_eq⟩ := goes_ofExcept_ok carried
    have unwraps : Unwraps (.capability c)
        [⟨.call c.function (c.function.arguments parameters body), .ok output⟩] value :=
      .capability value_eq
    have yields := Yields.intro unwraps (goes_callPostProcess_ok changed)
    exact yields

theorem goes_operation_ok {o : Remote.Operation} {endpoint : Remote.Endpoint}
    {parameters : Dict Json} {body : Option Json} {result : Json}
    (h : ((o.call endpoint parameters body : Run σ _ _) s).Goes replies (.ok result) t) :
    Yields (.remote o) replies result := by
  obtain ⟨files, _, request, u, rfl, asked, goesOn⟩ := goes_bind_ok h
  have before := goes_files (request_asksFiles o endpoint parameters body) asked
  obtain ⟨_, _, _, v, rfl, noted, sends⟩ := goes_bind_ok goesOn
  obtain rfl := goes_note noted
  obtain ⟨_, _, response, w, rfl, sent, interprets⟩ := goes_bind_ok sends
  obtain rfl := goes_send_ok sent
  obtain ⟨_, rest, value, x, rfl, carried, changed⟩ := goes_bind_ok interprets
  obtain ⟨rfl, value_eq⟩ := goes_ofExcept_ok carried
  have unwraps : Unwraps (.remote o) (files ++ [⟨.send request, .ok response⟩]) value :=
    .remote before value_eq
  have yields := Yields.intro unwraps (goes_callPostProcess_ok changed)
  rwa [List.append_assoc] at yields

end Goes

/-- **Only such replies lead a strategy of its own to a result.** -/
theorem yields_of_goes {run : Executor} {strategy : Strategy}
    (own : strategy.isReference = false) {arguments : Arguments} {s t : State}
    {replies : List Reply} {result : Json}
    (h : (callStrategy run strategy arguments s).Goes replies (.ok result) t) :
    Yields strategy replies result := by
  cases strategy with
  | function f =>
    obtain ⟨output, rest, u, rfl, carried⟩ := goes_callNamed_ok h
    obtain ⟨rfl, result_eq⟩ := goes_ofExcept_ok carried
    exact .intro (.function result_eq) (.nothing result)
  | remote o =>
    obtain ⟨_, _, endpoint, u, rfl, found, called⟩ := goes_bind_ok h
    exact (goes_operation_ok called).after_files (goes_files (endpoint_asksFiles o.backend) found)
  | capability c => exact goes_callCapability_ok h
  | reference target => contradiction

end Run

end Pageflow
