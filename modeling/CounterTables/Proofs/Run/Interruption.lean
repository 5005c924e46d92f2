import Mathlib
import CounterTables.Proofs.Run.Concatenation

/-!
# Runs that are cut off

A sink with little room may be full in the middle of any line of a run. Since a
run writes its output in one go from the licence to the last entry, what such a
sink has in the end is the beginning of the output that a sink with enough room
would have, up to the last byte that fits. The fault that ends the run belongs
to the first byte that does not: the licence reaches from the beginning of the
output to its own length, and each entry from where the entries before it end to
where it ends itself, so every place is in exactly one of them.

## Main results

* `Setup.CutIn`, `Setup.CutIn.unique` — what a place of the output belongs to.
* `Setup.Ready.run_limited_of_le`, `Setup.Ready.run_limited_of_lt`,
  `Setup.Ready.run_limited` — a run on a sink with room for its output, on one
  without, and on any.
* `interrupted_run_writes_beginning` — what is written, and how the run ends.
* `briefSetup_interrupted` — a run that is cut within an alias.
-/

namespace CounterTables

open CounterTables.Layout (textOf)
open CounterTables.Text (Utf8.encode Utf8.encode_append)

/-! ## Sinks with little room -/

/-- A sink for this many bytes. -/
def Sink.limited (room : Nat) (refusesFlush : Bool) : Sink :=
  ⟨some room, refusesFlush, []⟩

theorem written_write_limited (room : Nat) (refusesFlush : Bool) (text : String) :
    ((Sink.limited room refusesFlush).write text).1.written =
      (Utf8.encode text).take room := by
  rw [Sink.written_write]
  rfl

theorem write_limited_eq_none_iff {room : Nat} {refusesFlush : Bool} {text : String} :
    ((Sink.limited room refusesFlush).write text).2 = none ↔
      (Utf8.encode text).length ≤ room := by
  simp [Sink.write_eq_none_iff, Sink.limited]

theorem flush_write_limited (room : Nat) (refusesFlush : Bool) (text : String) :
    ((Sink.limited room refusesFlush).write text).1.flush =
      if refusesFlush then some .flushRefused else none :=
  Sink.flush_write _ _

/-! ## Where a run is cut -/

namespace Setup

/-- The byte of the output at this place belongs to what the fault speaks of: to
the licence, or to the segment of an entry. -/
inductive CutIn (setup : Setup) (license : Option String) (entries : List Entry)
    (place : Nat) : RunFault → Prop
  | license (before : place < (Utf8.encode (textOf (licenseHeader license))).length) :
      CutIn setup license entries place (.licenseHeader .full)
  | segment {front back : List Entry} {entry : Entry}
      (split : entries = front ++ entry :: back)
      (from_le : (Utf8.encode (setup.output license front)).length ≤ place)
      (lt_to : place < (Utf8.encode (setup.output license (front ++ [entry]))).length) :
      CutIn setup license entries place (.product entry.product .full)

section CutIn

variable (setup : Setup) (license : Option String)

/-- The more entries, the longer the output. -/
theorem length_output_le {front more : List Entry} (h : front <+: more) :
    (Utf8.encode (setup.output license front)).length ≤
      (Utf8.encode (setup.output license more)).length := by
  obtain ⟨back, rfl⟩ := h
  have happend : setup.output license (front ++ back) =
      setup.output license front ++ setup.source.segments back := by
    rw [output, output, segments_append, String.append_assoc]
  rw [happend, Utf8.encode_append, List.length_append]
  exact Nat.le_add_right _ _

theorem length_licenseHeader_le (entries : List Entry) :
    (Utf8.encode (textOf (licenseHeader license))).length ≤
      (Utf8.encode (setup.output license entries)).length := by
  rw [output, Utf8.encode_append, List.length_append]
  exact Nat.le_add_right _ _

variable {setup license}

/-- An entry that begins at a place or before it does not come after one that
ends behind the place. -/
theorem length_le_of_cut {front front' back back' : List Entry} {entry entry' : Entry}
    {place : Nat} (hsplits : front ++ entry :: back = front' ++ entry' :: back')
    (hfrom : (Utf8.encode (setup.output license front)).length ≤ place)
    (hto : place < (Utf8.encode (setup.output license (front' ++ [entry']))).length) :
    front.length ≤ front'.length := by
  by_contra hlt
  have hwhole : front' ++ [entry'] <+: front ++ entry :: back :=
    ⟨back', by rw [hsplits, List.append_assoc]; rfl⟩
  have hfront : front' ++ [entry'] <+: front := by
    refine List.prefix_of_prefix_length_le hwhole (List.prefix_append _ _) ?_
    rw [List.length_append, List.length_singleton]
    omega
  have hle := length_output_le setup license hfront
  omega

/-- The place tells the fault. -/
theorem CutIn.unique {entries : List Entry} {place : Nat} {fault fault' : RunFault}
    (h : setup.CutIn license entries place fault)
    (h' : setup.CutIn license entries place fault') : fault = fault' := by
  cases h with
  | license hlt =>
      cases h' with
      | license _ => rfl
      | @segment front _ _ _ hfrom _ =>
          have hle := length_licenseHeader_le setup license front
          omega
  | @segment front _ _ hsplit hfrom hto =>
      cases h' with
      | license hlt =>
          have hle := length_licenseHeader_le setup license front
          omega
      | segment hsplit' hfrom' hto' =>
          have hsplits := hsplit.symm.trans hsplit'
          have hle := length_le_of_cut hsplits hfrom hto'
          have hge := length_le_of_cut hsplits.symm hfrom' hto
          obtain ⟨-, hrest⟩ := List.append_inj hsplits (Nat.le_antisymm hle hge)
          obtain ⟨rfl, -⟩ := List.cons.inj hrest
          rfl

end CutIn

section Ready

variable {setup : Setup} {entries : List Entry} {license : Option String}
  (h : setup.Ready entries license)

include h

/-- A sink with room for the output takes all of it, and the run ends well
unless the sink refuses to be flushed. -/
theorem Ready.run_limited_of_le {room : Nat} (refusesFlush : Bool)
    (hroom : (Utf8.encode (setup.output license entries)).length ≤ room) :
    let ended := setup.run (.limited room refusesFlush)
    ended.2.written = Utf8.encode (setup.output license entries) ∧
      ended.1 = if refusesFlush then .error (.flush .flushRefused)
        else .ok ⟨setup.source.reports entries⟩ := by
  intro ended
  let sink := Sink.limited room refusesFlush
  let after := (sink.write (setup.output license entries)).1
  have hwrite : sink.write (setup.output license entries) = (after, none) :=
    Prod.ext rfl (write_limited_eq_none_iff.2 hroom)
  have hflush : after.flush = if refusesFlush then some .flushRefused else none :=
    flush_write_limited room refusesFlush _
  have hwritten : after.written = Utf8.encode (setup.output license entries) := by
    have htake := written_write_limited room refusesFlush (setup.output license entries)
    rwa [List.take_of_length_le hroom] at htake
  have hended : ended = _ := h.run_of_written hwrite
  rw [hended, hflush]
  cases refusesFlush
  · exact ⟨hwritten, rfl⟩
  · exact ⟨hwritten, rfl⟩

/-- A sink without room for the output takes what fits, and the run ends with
the fault of what the first byte too many belongs to. -/
theorem Ready.run_limited_of_lt {room : Nat} (refusesFlush : Bool)
    (hroom : room < (Utf8.encode (setup.output license entries)).length) :
    let ended := setup.run (.limited room refusesFlush)
    ended.2.written = (Utf8.encode (setup.output license entries)).take room ∧
      ∃ fault, ended.1 = .error fault ∧ setup.CutIn license entries room fault := by
  intro ended
  let sink := Sink.limited room refusesFlush
  -- a text is taken just if it has no more bytes than there is room
  have hfits : ∀ text, (sink.write text).2 = none ↔ (Utf8.encode text).length ≤ room :=
    fun text => write_limited_eq_none_iff
  have hcut : ∀ {text fault}, (sink.write text).2 = some fault →
      fault = .full ∧ room < (Utf8.encode text).length := by
    intro text fault hfault
    refine ⟨Sink.eq_full_of_write hfault, Nat.lt_of_not_le fun hle => ?_⟩
    rw [(hfits text).2 hle] at hfault
    cases hfault
  cases hwrite : sink.write (setup.output license entries) with
  | mk after failed =>
      have hwritten : after.written =
          (Utf8.encode (setup.output license entries)).take room := by
        rw [← written_write_limited room refusesFlush]
        exact congrArg (fun outcome => outcome.1.written) hwrite.symm
      cases failed with
      | none =>
          have hle := (hfits _).1 (congrArg Prod.snd hwrite)
          omega
      | some fault =>
          rcases h.run_of_cut hwrite with ⟨hheader, hrun⟩ |
            ⟨front, entry, back, hsplit, hfront, hsegment, hrun⟩
          · obtain ⟨rfl, hlt⟩ := hcut hheader
            have hended : ended = (.error (.licenseHeader .full), after) := hrun
            rw [hended]
            exact ⟨hwritten, _, rfl, .license hlt⟩
          · obtain ⟨rfl, hlt⟩ := hcut hsegment
            have hended : ended = (.error (.product entry.product .full), after) := hrun
            rw [hended]
            exact ⟨hwritten, _, rfl, .segment hsplit ((hfits _).1 hfront) hlt⟩

/-- What a sink for `room` bytes has in the end, and how the run ends on it. -/
theorem Ready.run_limited (room : Nat) (refusesFlush : Bool) :
    let whole := Utf8.encode (setup.output license entries)
    let ended := setup.run (.limited room refusesFlush)
    ended.2.written = whole.take room ∧
    ((∃ report, ended.1 = .ok report) ↔ whole.length ≤ room ∧ refusesFlush = false) ∧
    (room < whole.length →
      ∀ fault, ended.1 = .error fault ↔ setup.CutIn license entries room fault) ∧
    (whole.length ≤ room → refusesFlush = true →
      ended.1 = .error (.flush .flushRefused) ∧ ended.2.written = whole) := by
  intro whole ended
  rcases Nat.lt_or_ge room whole.length with hlt | hle
  · obtain ⟨hwritten, fault, hfault, hcut⟩ := h.run_limited_of_lt refusesFlush hlt
    refine ⟨hwritten, ⟨?_, by omega⟩, fun _ other => ⟨?_, ?_⟩, by omega⟩
    · rintro ⟨report, hreport⟩
      cases hfault.symm.trans hreport
    · intro hother
      cases hfault.symm.trans hother
      exact hcut
    · intro hother
      -- no place belongs to two faults
      rw [hcut.unique hother] at hfault
      exact hfault
  · obtain ⟨hwritten, hresult⟩ := h.run_limited_of_le refusesFlush hle
    have htake : whole.take room = whole := List.take_of_length_le hle
    refine ⟨by rw [htake]; exact hwritten, ?_, by omega, ?_⟩
    · cases refusesFlush with
      | false => exact ⟨fun _ => ⟨hle, rfl⟩, fun _ => ⟨_, hresult⟩⟩
      | true =>
          constructor
          · rintro ⟨report, hreport⟩
            cases hresult.symm.trans hreport
          · rintro ⟨-, hfalse⟩
            cases hfalse
    · rintro - rfl
      exact ⟨hresult, hwritten⟩

end Ready

end Setup

/-- **A run that is cut off has written the beginning of its output.** A run
that cannot name its entries or read its licence writes nothing and says so. Any
other run on a sink for `room` bytes writes as many bytes of its output, in this
order, and ends well just if these are all and the sink can be flushed. The
fault tells what the first byte that did not fit belongs to; if everything fits,
only flushing is left to fail. -/
theorem interrupted_run_writes_beginning (setup : Setup)
    (hfits : ∀ entries, setup.settings.entries = .ok entries →
      ∀ entry ∈ entries, (setup.source.fetched entry).Fits)
    (room : Nat) (refusesFlush : Bool) :
    let whole := (setup.run .unbounded).2.written
    let ended := setup.run (.limited room refusesFlush)
    match setup.settings.entries, setup.license with
    | .error fault, _ => ended.1 = .error (.settings fault) ∧ ended.2.written = []
    | .ok _, .error fault => ended.1 = .error fault ∧ ended.2.written = []
    | .ok entries, .ok license =>
        ended.2.written = whole.take room ∧
        ((∃ report, ended.1 = .ok report) ↔ whole.length ≤ room ∧
          refusesFlush = false) ∧
        (room < whole.length →
          ∀ fault, ended.1 = .error fault ↔ setup.CutIn license entries room fault) ∧
        (whole.length ≤ room → refusesFlush = true →
          ended.1 = .error (.flush .flushRefused) ∧ ended.2.written = whole) := by
  intro whole ended
  cases hentries : setup.settings.entries with
  | error fault =>
      have hended : ended = (.error (.settings fault), .limited room refusesFlush) :=
        Setup.run_of_entries_error hentries _
      rw [hended]
      exact ⟨rfl, rfl⟩
  | ok entries =>
      cases hlicense : setup.license with
      | error fault =>
          have hended : ended = (.error fault, .limited room refusesFlush) :=
            Setup.run_of_license_error hentries hlicense _
          rw [hended]
          exact ⟨rfl, rfl⟩
      | ok license =>
          have hready : setup.Ready entries license :=
            ⟨hentries, hlicense, hfits entries hentries⟩
          have hwhole : whole = Utf8.encode (setup.output license entries) := by
            show (setup.run .unbounded).2.written = _
            rw [hready.run_unbounded]
          dsimp only
          rw [hwhole]
          exact hready.run_limited room refusesFlush

/-- A run with a licence over an alias and a document that is missing. -/
def briefSetup : Setup where
  settings := { mixedSetup.settings with
    catalog := ⟨[⟨"neoverse", ["n2.json", "n3.json"]⟩]⟩ }
  files := mixedSetup.files
  source := mixedSource

/-- Forty bytes are the licence and the beginning of the alias. -/
theorem briefSetup_interrupted :
    (∀ entries, briefSetup.settings.entries = .ok entries →
      ∀ entry ∈ entries, (briefSetup.source.fetched entry).Fits) ∧
    (briefSetup.run (.limited 40 false)).2.written =
      (briefSetup.run .unbounded).2.written.take 40 ∧
    (briefSetup.run (.limited 40 false)).1 = .error (.product "n2" .full) := by
  let first := Entry.of "neoverse" "n2.json"
  let second := Entry.of "neoverse" "n3.json"
  have hentries : briefSetup.settings.entries = .ok [first, second] := by cbv
  have hlicense : briefSetup.license = .ok (some "BSD\n\nText") := by cbv
  have hfits : ∀ entries, briefSetup.settings.entries = .ok entries →
      ∀ entry ∈ entries, (briefSetup.source.fetched entry).Fits := by
    intro entries hother entry hentry
    cases hentries.symm.trans hother
    refine fits_mixedSource entry ?_
    rcases List.mem_pair.1 hentry with rfl | rfl <;> decide
  have hheader : textOf (licenseHeader (some "BSD\n\nText")) =
      "// BSD\n//\n// Text\n\n" := by
    cbv
  have hsegment : (mixedSource.fetched first).segment =
      "// neoverse/n2.json\nWPERF_TS_ALIAS(\"n2\",\"n1\")\n\n" := by
    cbv
  -- the alias is written from byte 19 to byte 66
  have hfrom : Utf8.encode (briefSetup.output (some "BSD\n\nText") []) =
      Utf8.encode "// BSD\n//\n// Text\n\n" := by
    rw [Setup.output, hheader]
    rfl
  have hto : Utf8.encode (briefSetup.output (some "BSD\n\nText") [first]) =
      Utf8.encode "// BSD\n//\n// Text\n\n" ++
        Utf8.encode "// neoverse/n2.json\nWPERF_TS_ALIAS(\"n2\",\"n1\")\n\n" := by
    have hone : briefSetup.source.segments [first] =
        (mixedSource.fetched first).segment := by
      rw [segments_cons]
      exact String.append_empty
    rw [Setup.output, hheader, hone, hsegment, Utf8.encode_append]
  have hlt : 40 <
      (Utf8.encode (briefSetup.output (some "BSD\n\nText") [first])).length := by
    rw [hto]
    decide +kernel
  have hcut : briefSetup.CutIn (some "BSD\n\nText") [first, second] 40
      (.product "n2" .full) := by
    have hle :
        (Utf8.encode (briefSetup.output (some "BSD\n\nText") [])).length ≤ 40 := by
      rw [hfrom]
      decide +kernel
    have hsplit : [first, second] = [] ++ first :: [second] := rfl
    exact .segment hsplit hle hlt
  have hlong : 40 < (briefSetup.run .unbounded).2.written.length := by
    have hready : briefSetup.Ready [first, second] (some "BSD\n\nText") :=
      ⟨hentries, hlicense, hfits _ hentries⟩
    rw [hready.run_unbounded]
    exact Nat.lt_of_lt_of_le hlt (Setup.length_output_le _ _ ⟨[second], rfl⟩)
  have hended := interrupted_run_writes_beginning briefSetup hfits 40 false
  simp only [hentries, hlicense] at hended
  obtain ⟨hwritten, -, hfault, -⟩ := hended
  exact ⟨hfits, hwritten, (hfault hlong _).2 hcut⟩

end CounterTables
