import CounterTables.Run.Report

/-!
# Stages of runs

A run writes lines, reports what it does, and reads files, in turn: what it
reads may be what was just written. A stage says how lines and reports are
taken, in a monad of its own choice. The same run then works on a sink that may
be full and on the files of a machine.

## Main definitions

* `Stage` — the operations.
* `Stage.ofSink` — a sink as a stage.
* `readLicense`, `licenseHeader` — what all runs begin with.
-/

namespace CounterTables

variable {m : Type → Type} [Monad m]

/-! ## Stages -/

/-- What takes the lines and the reports of a run. -/
structure Stage (m : Type → Type) where
  /-- Writes the lines before the first that cannot be laid out, and fails
  there. -/
  write : Layout.Lines → m (Option WriteFault)
  flush : m (Option WriteFault)
  report : Log.Event → m Unit

namespace Stage

/-- Reports one thing after another. -/
def reportAll (stage : Stage m) : List Log.Event → m Unit
  | [] => return ()
  | event :: rest => do
      stage.report event
      stage.reportAll rest

/-- A sink as a stage, where reports are not kept. -/
def ofSink : Stage (StateM Sink) where
  write lines := fun sink => ((sink.writeLines lines).2, (sink.writeLines lines).1)
  flush := fun sink => (sink.flush, sink)
  report _ := return ()

end Stage

/-! ## Licences -/

/-- The text of the licence file, if there is one. -/
def readLicense (files : FileReader m) :
    Option String → m (Except RunFault (Option String))
  | none => return .ok none
  | some path => return ((readText (← files path)).map some).mapError (.license path)

/-- The lines that the licence makes, if there is one. -/
def licenseHeader (license : Option String) : Layout.Lines :=
  license.elim [] Layout.licenseLines

end CounterTables
