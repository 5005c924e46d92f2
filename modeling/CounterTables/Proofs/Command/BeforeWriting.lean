import Mathlib
import CounterTables.Command.Execution
import CounterTables.Proofs.Source.Contents

/-!
# Runs before their first line

A run that ends with a fault has either begun to write, and then the fault is
one of its output, or it has read something that it cannot use. In the second
case it leaves its output stream alone, and every file but the log's.

## Main results

* `satisfiesM_visitAndFlush`, `satisfiesM_writeArchitecture` — once a run has
  begun to write, only its output can end it.
* `WritesLast` — everything else that ends a run comes before.
* `runTelemetry_writesLast`, `runArchitecture_writesLast` — so it is with both
  kinds of runs.
-/

namespace CounterTables

/-! ## Faults and contents -/

/-- The fault shows before the output is open. -/
def RunFault.precedesOutput : RunFault → Bool
  | settings _ => true
  | create _ _ => true
  | _ => false

/-- The bytes of the file that a path leads to, if there is one. -/
def Machine.content (machine : Machine) (path : String) : Option (List UInt8) :=
  machine.tree.content path

/-! ## Runs that have begun to write -/

/-- If there is a fault, it is one of the output. -/
def FailsByOutput {α : Type} : Except RunFault α → Prop
  | .ok _ => True
  | .error fault => fault.writeFault? ≠ none

section AnyHost

variable {m : Type → Type} [Monad m] [LawfulMonad m] (stage : Stage m)
  (source : DocumentSource m)

theorem satisfiesM_visit (entry : Entry) :
    SatisfiesM FailsByOutput (visit stage source entry) := by
  refine SatisfiesM.trivial.bind fun result _ => SatisfiesM.trivial.bind fun _ _ =>
    SatisfiesM.pure ?_
  cases result with
  | ok report => trivial
  | error fault => exact nofun

theorem satisfiesM_visitAll (entries : List Entry) :
    SatisfiesM FailsByOutput (visitAll stage source entries) := by
  induction entries with
  | nil => exact SatisfiesM.pure trivial
  | cons entry rest ih =>
      refine (satisfiesM_visit stage source entry).bind fun result hresult => ?_
      cases result with
      | error fault => exact SatisfiesM.pure hresult
      | ok report =>
          refine ih.bind fun reports hreports => SatisfiesM.pure ?_
          cases reports with
          | ok _ => trivial
          | error fault => exact hreports

/-- A run over products that has its licence is ended by its output only. -/
theorem satisfiesM_visitAndFlush (entries : List Entry) :
    SatisfiesM FailsByOutput (visitAndFlush stage source entries) := by
  refine (satisfiesM_visitAll stage source entries).bind fun result hresult => ?_
  cases result with
  | error fault => exact SatisfiesM.pure hresult
  | ok products =>
      refine SatisfiesM.trivial.bind fun flushed _ => ?_
      cases flushed with
      | some fault => exact SatisfiesM.pure nofun
      | none => exact SatisfiesM.trivial.bind fun _ _ => SatisfiesM.pure trivial

/-- So is a run over events that has its licence and its list. -/
theorem satisfiesM_writeArchitecture (license : Option String)
    (list : Document.Architecture) :
    SatisfiesM FailsByOutput (writeArchitecture stage license list) := by
  refine SatisfiesM.trivial.bind fun header _ => ?_
  cases header with
  | some fault => exact SatisfiesM.pure nofun
  | none =>
      refine SatisfiesM.trivial.bind fun written _ => ?_
      cases written with
      | some fault => exact SatisfiesM.pure nofun
      | none =>
          refine SatisfiesM.trivial.bind fun flushed _ => ?_
          cases flushed with
          | some fault => exact SatisfiesM.pure nofun
          | none => exact SatisfiesM.trivial.bind fun _ _ => SatisfiesM.pure trivial

end AnyHost

/-! ## Runs on a machine -/

/-- Steps on a machine, with the output in a stream. -/
abbrev Streamed := StateT (Stream Machine.OpenFile) (StateM Machine)

namespace Streamed

variable {α β : Type}

theorem bind_eq {first : Streamed α} (next : α → Streamed β)
    {stream stream' : Stream Machine.OpenFile} {machine machine' : Machine} {found : α}
    (h : first stream machine = ((found, stream'), machine')) :
    (first >>= next) stream machine = next found stream' machine' := by
  show next (first stream machine).1.1 (first stream machine).1.2
      (first stream machine).2 = _
  rw [h]

theorem of_satisfiesM {p : α → Prop} {run : Streamed α} (h : SatisfiesM p run)
    (stream : Stream Machine.OpenFile) (machine : Machine) :
    p (run stream machine).1.1 := by
  have hmachine : SatisfiesM (fun found => p found.1.1)
      ((run.run stream).run machine) :=
    SatisfiesM_StateT_eq.1 (SatisfiesM_StateT_eq.1 h stream) machine
  have hfound := SatisfiesM_Id_eq.1 hmachine
  exact hfound

end Streamed

theorem StateM.bind_eq {α β : Type} {first : StateM Machine α}
    (next : α → StateM Machine β) {machine machine' : Machine} {found : α}
    (h : first machine = (found, machine')) :
    (first >>= next) machine = next found machine' := by
  show next (first machine).1 (first machine).2 = _
  rw [h]

/-- The log does not change the file that the path leads to. -/
def Spares (path : String) (log : Log.Event → StateM Machine Unit) : Prop :=
  ∀ event machine, (log event machine).2.content path = machine.content path

/-- If the run fails for another reason than its output, then before anything
was written, with a fault that cannot show before the output is open. -/
def WritesLast {α : Type} (path : String) (run : Streamed (Except RunFault α)) : Prop :=
  ∀ stream machine fault stream' machine',
    run stream machine = ((.error fault, stream'), machine') →
      fault.writeFault? = none →
      fault.precedesOutput = false ∧ stream' = stream ∧
        machine'.content path = machine.content path

/-- What fails by its output only has nothing else to fail of. -/
theorem writesLast_of_satisfiesM {α : Type} {path : String}
    {run : Streamed (Except RunFault α)} (h : SatisfiesM FailsByOutput run) :
    WritesLast path run := by
  intro stream machine fault stream' machine' hrun hearly
  have hfails := Streamed.of_satisfiesM h stream machine
  rw [hrun] at hfails
  exact absurd hearly hfails

theorem writesLast_error {α : Type} (path : String) {fault : RunFault}
    (h : fault.precedesOutput = false) :
    WritesLast path (pure (.error fault) : Streamed (Except RunFault α)) := by
  intro stream machine other stream' machine' hrun _
  obtain ⟨hresult, rfl⟩ := Prod.mk.inj hrun
  obtain ⟨hfault, rfl⟩ := Prod.mk.inj hresult
  obtain rfl := Except.error.inj hfault
  exact ⟨h, rfl, rfl⟩

/-- A step that leaves the stream and the file alone may come first. -/
theorem WritesLast.bind {α β : Type} {path : String} {first : Streamed β}
    {next : β → Streamed (Except RunFault α)}
    (hfirst : ∀ stream machine, ∃ found machine', first stream machine =
      ((found, stream), machine') ∧ machine'.content path = machine.content path ∧
        WritesLast path (next found)) :
    WritesLast path (first >>= next) := by
  intro stream machine fault stream' machine' hrun hearly
  obtain ⟨found, between, hstep, hcontent, hnext⟩ := hfirst stream machine
  rw [Streamed.bind_eq next hstep] at hrun
  obtain ⟨hfault, hstream, hafter⟩ :=
    hnext stream between fault stream' machine' hrun hearly
  exact ⟨hfault, hstream, hafter.trans hcontent⟩

section Runs

variable {path : String} (respond : Responder Id)
  {log : Log.Event → StateM Machine Unit}

/-- The licence is read, or there is a fault. -/
theorem exists_run_readLicense (license : Option String)
    (stream : Stream Machine.OpenFile) (machine : Machine) :
    ∃ result : Except RunFault (Option String),
      readLicense (Machine.host respond).files license stream machine =
        ((result, stream), machine) ∧
      ∀ fault, result = .error fault → fault.precedesOutput = false := by
  cases license with
  | none => exact ⟨.ok none, rfl, nofun⟩
  | some file =>
      refine ⟨((readText (machine.tree.read file)).map some).mapError (.license file),
        rfl, ?_⟩
      intro fault hfault
      cases htext : readText (machine.tree.read file) with
      | ok text => rw [htext] at hfault; cases hfault
      | error other =>
          rw [htext] at hfault
          obtain rfl := Except.error.inj hfault
          rfl

/-- Reports go to the log. -/
theorem exists_run_reportAll (hlog : Spares path log) (events : List Log.Event)
    (stream : Stream Machine.OpenFile) (machine : Machine) :
    ∃ machine', ((Machine.host respond).stage log).reportAll events stream machine =
        (((), stream), machine') ∧ machine'.content path = machine.content path := by
  induction events generalizing machine with
  | nil => exact ⟨machine, rfl, rfl⟩
  | cons event rest ih =>
      obtain ⟨machine', hrest, hcontent⟩ := ih (log event machine).2
      exact ⟨machine', hrest, hcontent.trans (hlog event machine)⟩

/-- A run over products reads its licence before it writes. -/
theorem runTelemetry_writesLast {settings : Settings} {entries : List Entry}
    (hentries : settings.entries = .ok entries) (source : DocumentSource Streamed) :
    WritesLast path (runTelemetry settings (Machine.host respond).files source
      ((Machine.host respond).stage log)) := by
  unfold runTelemetry
  rw [hentries]
  refine WritesLast.bind fun stream machine => ?_
  obtain ⟨result, hlicense, hfault⟩ :=
    exists_run_readLicense respond settings.license stream machine
  refine ⟨result, machine, hlicense, rfl, ?_⟩
  cases result with
  | error fault => exact writesLast_error path (hfault fault rfl)
  | ok license =>
      apply writesLast_of_satisfiesM
      refine SatisfiesM.trivial.bind fun header _ => ?_
      cases header with
      | some fault => exact SatisfiesM.pure nofun
      | none => exact satisfiesM_visitAndFlush _ source entries

theorem precedesOutput_of_listIn {location : String}
    {found : Except SourceFault (List UInt8)} {fault : RunFault}
    (h : listIn location found = .error fault) : fault.precedesOutput = false := by
  cases found with
  | error other =>
      obtain rfl := Except.error.inj h
      rfl
  | ok bytes =>
      unfold listIn at h
      dsimp only at h
      split at h
      · obtain rfl := Except.error.inj h
        rfl
      · cases h

/-- A run over events reads its licence and its input before it writes. -/
theorem runArchitecture_writesLast (hlog : Spares path log) (location : String)
    (license : Option String) :
    WritesLast path (runArchitecture location license (Machine.host respond).files
      (Machine.host respond).responses ((Machine.host respond).stage log)) := by
  refine WritesLast.bind fun stream machine => ?_
  obtain ⟨result, hlicense, hfault⟩ :=
    exists_run_readLicense respond license stream machine
  refine ⟨result, machine, hlicense, rfl, ?_⟩
  cases result with
  | error fault => exact writesLast_error path (hfault fault rfl)
  | ok license =>
      refine WritesLast.bind fun stream machine => ?_
      obtain ⟨machine', hreport, hcontent⟩ :=
        exists_run_reportAll respond hlog (inputNotices location) stream machine
      refine ⟨(), machine', hreport, hcontent, ?_⟩
      refine WritesLast.bind fun stream machine => ?_
      have hread : ∃ found, readLocation (Machine.host respond).files
          (Machine.host respond).responses location stream machine =
            ((found, stream), machine) := by
        unfold readLocation
        split
        · exact ⟨_, rfl⟩
        · exact ⟨_, rfl⟩
      obtain ⟨found, hfound⟩ := hread
      refine ⟨found, machine, hfound, rfl, ?_⟩
      cases hlist : listIn location found with
      | error fault => exact writesLast_error path (precedesOutput_of_listIn hlist)
      | ok list =>
          apply writesLast_of_satisfiesM
          exact SatisfiesM.trivial.bind fun _ _ =>
            satisfiesM_writeArchitecture _ license list

end Runs

end CounterTables
