import ServiceStability.CommandLine.Output
import ServiceStability.Proofs.LineKeys
import ServiceStability.Proofs.RestTest
import ServiceStability.Proofs.Sections
import ServiceStability.Proofs.WiderInterest
import ServiceStability.Proofs.WrittenForms
/-!
# Proofs.Formats — the verdict and the formats of a verification agree

The exit code comes from the outcome of a verification, what is written comes from the report on its context, and the
word that all is well from a test of that report.  A restored graph is at rest, so its verification is never cancelled,
and then there are two ways it can end: with nothing on the context, or with a report that has a section.

- `CommandLine.verifyGraph_cases`: the two ways.
- `DiagnosticReport.read_pretty`, `DiagnosticReport.lineKeys_write`: what a reader makes of the two documents.
- `CommandLine.ReportFormat.Tells`: what is written in a format, given the answer and the report.
- `CommandLine.formats_agree`: the answer, the sections and what is written agree.
-/
namespace ServiceStability

/-- **How a verification of services at rest ends**: stable with nothing on the context, or failed with a report that is
not empty, and with a rollback if one was asked for. -/
theorem verify_ok_cases (m : Monitor) (lookup : ServiceLookup) (result : QuiescenceResult) (rollback : Bool) :
    (verify m (.new ⟨rollback⟩) lookup (.ok result)).outcome = .stable ∧
        (verify m (.new ⟨rollback⟩) lookup (.ok result)).context = .new ⟨rollback⟩ ∨
      ∃ report : DiagnosticReport, report.isEmpty = false ∧
        (verify m (.new ⟨rollback⟩) lookup (.ok result)).outcome = .failed ∧
        (verify m (.new ⟨rollback⟩) lookup (.ok result)).context = ⟨rollback, rollback, some (.report report)⟩ := by
  have attached : (verify m (.new ⟨rollback⟩) lookup (.ok result)).context =
      (OperationContext.new ⟨rollback⟩).attach (diagnose lookup result) := rfl
  rw [outcome_verify_ok, attached, OperationContext.attach]
  cases empty : (diagnose lookup result).isEmpty with
  | true => exact Or.inl ⟨rfl, rfl⟩
  | false => exact Or.inr ⟨diagnose lookup result, empty, rfl, by cases rollback <;> rfl⟩

namespace DiagnosticReport

/-- A text that goes on from a report with a section is not the word that all is well. -/
theorem text_append_ne_stable {r : DiagnosticReport} (filled : r.isEmpty = false) (rest : Text) :
    r.text ++ rest ≠ Text.line "stable".toList := by
  intro same
  obtain ⟨s, begins⟩ := ReportSection.exists_heading_prefix_text filled
  have within : s.heading <+: Text.line "stable".toList := same ▸ begins.trans (List.prefix_append ..)
  cases s <;> exact absurd within (by decide)

/-- **A report that is written as a document is read as that document.** -/
theorem read_pretty (r : DiagnosticReport) : Json.read (Text.line r.toJson.pretty) = (.ofJson r.toJson, false) :=
  Json.read_append_of_written (Json.written_pretty r.toJson) (by simp [Json.Spaces, Json.isSpace])

theorem pretty_eq_iff {r : DiagnosticReport} :
    Text.line r.toJson.pretty = Text.line "\x7b\x7d".toList ↔ r.isEmpty = true := by
  rw [← ReportSection.toJson_eq_iff]
  refine ⟨fun same => ?_, fun nothing => by rw [nothing]; rfl⟩
  have told : Json.read (Text.line r.toJson.pretty) = (.object [] none, false) := by rw [same]; exact read_pretty empty
  rw [read_pretty, toJson, Json.Outline.ofJson, Json.Outline.ofMembers_eq_map] at told
  have nothing := (Json.Outline.object.inj (Prod.mk.inj told).1).1
  rw [toJson, List.map_eq_nil_iff.1 nothing]

/-- **The keys that begin the lines of a report** are the titles of the sections that it has, in order. -/
theorem lineKeys_write (r : DiagnosticReport) : Yaml.lineKeys true (Yaml.write r.toJson) =
    (ReportSection.all.filter fun s => s.isIn r).map ReportSection.title := by
  have bare : ∀ s : ReportSection, Yaml.IsBare s.title := fun s => by
    cases s <;> exact ⟨by decide +kernel, by decide +kernel, by decide, by decide⟩
  rw [← ReportSection.keys_members]
  refine Yaml.lineKeys_write fun member listed => ?_
  have title : member.1 ∈ r.members.map Prod.fst := List.mem_map_of_mem listed
  rw [ReportSection.keys_members] at title
  obtain ⟨s, -, same⟩ := List.mem_map.1 title
  exact same ▸ bare s

theorem write_eq_iff {r : DiagnosticReport} :
    Yaml.write r.toJson = Text.line "\x7b\x7d".toList ↔ r.isEmpty = true := by
  rw [← ReportSection.toJson_eq_iff]
  refine ⟨fun same => ?_, fun empty => by rw [empty]; rfl⟩
  have keys := lineKeys_write r
  rw [same, ← ReportSection.keys_members] at keys
  rw [toJson, List.map_eq_nil_iff.1 keys.symm]

end DiagnosticReport

namespace CommandLine

variable {snapshot : RuntimeSnapshot} {g : Graph} {request : VerifyRequest} {file : Option Text} {problem : RunError}

/-- **How a verification of a restored graph ends.** -/
theorem verifyGraph_cases (restored : snapshot.restore = .ok g) (touched : List ServiceName) (rollback : Bool) :
    (verifyGraph g touched rollback).outcome = .stable ∧
        (verifyGraph g touched rollback).context = .new ⟨rollback⟩ ∨
      ∃ report : DiagnosticReport, report.isEmpty = false ∧ (verifyGraph g touched rollback).outcome = .failed ∧
        (verifyGraph g touched rollback).context = ⟨rollback, rollback, some (.report report)⟩ := by
  let m := Monitor.idle.watchAll (touchedIn g touched)
  have still : m.atRest g = true :=
    Graph.isQuiescent_iff.2 fun name _ => RuntimeSnapshot.atRest_of_restore restored name
  have looked : m.await ownRuntime [g] = (.ok (m.capture ownRuntime g), 0) := Monitor.await_of_atRest still []
  rw [verifyGraph, looked]
  exact verify_ok_cases ..

/-- **What a verification writes in a format**, given whether there are problems and the report.
- Its text is one line exactly if there are no problems, and otherwise the report, with the line about a rollback if
  there is to be one.
- A document in brackets is read as that of the report; one in block notation has the titles of the sections that the
  report has, and no others, in front of its lines.  Either is the document of nothing exactly if there are no
  problems. -/
def ReportFormat.Tells (problems rollback : Bool) (report : DiagnosticReport) (out : Text) : ReportFormat → Prop
  | .text => (out = Text.line "stable".toList ↔ problems = false) ∧ (problems = true →
      out = report.text ++ if rollback then Text.line "rollback: required".toList else [])
  | .json => out = Text.line report.toJson.pretty ∧ Json.read out = (.ofJson report.toJson, false) ∧
      (out = Text.line "\x7b\x7d".toList ↔ problems = false)
  | .yaml => out = Yaml.write report.toJson ∧
      Yaml.lineKeys true out = (ReportSection.all.filter fun s => s.isIn report).map ReportSection.title ∧
      (out = Text.line "\x7b\x7d".toList ↔ problems = false)

theorem ReportFormat.tells_json {problems rollback : Bool} {report : DiagnosticReport}
    (agree : report.isEmpty = true ↔ problems = false) :
    ReportFormat.json.Tells problems rollback report (Text.line report.toJson.pretty) :=
  ⟨rfl, report.read_pretty, DiagnosticReport.pretty_eq_iff.trans agree⟩

theorem ReportFormat.tells_yaml {problems rollback : Bool} {report : DiagnosticReport}
    (agree : report.isEmpty = true ↔ problems = false) :
    ReportFormat.yaml.Tells problems rollback report (Yaml.write report.toJson) :=
  ⟨rfl, report.lineKeys_write, DiagnosticReport.write_eq_iff.trans agree⟩

theorem ReportFormat.tells_of_stable {v : Verified} {rollback : Bool} (context : v.context = .new ⟨rollback⟩)
    (format : ReportFormat) : format.Tells false rollback (reportOf v) (format.write v) := by
  have nothing : reportOf v = .empty := by rw [reportOf, context]; rfl
  have agree : (reportOf v).isEmpty = true ↔ false = false := iff_of_true (nothing ▸ rfl) rfl
  cases format with
  | text => exact ⟨iff_of_true (by rw [write, nothing]; rfl) rfl, fun wrong => by cases wrong⟩
  | json => exact tells_json agree
  | yaml => exact tells_yaml agree

theorem ReportFormat.tells_of_failed {v : Verified} {rollback : Bool} {report : DiagnosticReport}
    (filled : report.isEmpty = false) (context : v.context = ⟨rollback, rollback, some (.report report)⟩)
    (format : ReportFormat) : format.Tells true rollback (reportOf v) (format.write v) := by
  have attached : reportOf v = report := by rw [reportOf, context]; rfl
  have agree : (reportOf v).isEmpty = true ↔ true = false := by rw [attached, filled]; decide
  cases format with
  | text =>
    have out : ReportFormat.text.write v =
        report.text ++ if rollback then Text.line "rollback: required".toList else [] := by
      rw [write, attached, reportText, filled, context]
      rfl
    rw [out, attached]
    exact ⟨iff_of_false (DiagnosticReport.text_append_ne_stable filled _) (by decide), fun _ => rfl⟩
  | json => exact tells_json agree
  | yaml => exact tells_yaml agree

/-- **The answer, the attached report and what is written in any format agree.** -/
theorem verdict_agrees (restored : snapshot.restore = .ok g) (touched : List ServiceName) (rollback : Bool) :
    let v := verifyGraph g touched rollback
    ((v.outcome != .stable) = true ↔
      ∃ report, v.context.report? = some report ∧ ∃ s : ReportSection, s.isIn report = true) ∧
    ∀ format : ReportFormat, format.Tells (v.outcome != .stable) rollback (reportOf v) (format.write v) := by
  intro v
  rcases verifyGraph_cases restored touched rollback with ⟨stable, context⟩ | ⟨report, filled, failed, context⟩
  · have fine : (v.outcome != .stable) = false := by rw [stable]; rfl
    have nothing : v.context.report? = none := by rw [context]; rfl
    rw [fine, nothing]
    refine ⟨iff_of_false (by decide) ?_, ReportFormat.tells_of_stable context⟩
    rintro ⟨_, attached, -⟩
    cases attached
  · have wrong : (v.outcome != .stable) = true := by rw [failed]; rfl
    have attached : v.context.report? = some report := by rw [context]; rfl
    rw [wrong, attached]
    exact ⟨iff_of_true rfl ⟨report, rfl, ReportSection.exists_isIn filled⟩, ReportFormat.tells_of_failed filled context⟩

/-- **Why a verification comes to no answer**: the snapshot cannot be loaded, or not be restored. -/
def VerifyRequest.Refused (request : VerifyRequest) (file : Option Text) (problem : RunError) : Prop :=
  load request.snapshot file = .error problem ∨ ∃ snapshot cause, load request.snapshot file = .ok snapshot ∧
    snapshot.restore = .error cause ∧ problem = .notRestored cause

theorem bind_eq_error_iff {ε α β : Type} {first : Except ε α} {next : α → Except ε β} {fault : ε} :
    first >>= next = .error fault ↔ first = .error fault ∨ ∃ a, first = .ok a ∧ next a = .error fault := by
  cases first <;> simp [bind, Except.bind]

theorem VerifyRequest.answer_eq_error_iff : request.answer snapshot = .error problem ↔
    ∃ cause, snapshot.restore = .error cause ∧ problem = .notRestored cause := by
  have restored_iff : restored snapshot = .error problem ↔
      ∃ cause, snapshot.restore = .error cause ∧ problem = .notRestored cause := by
    rw [CommandLine.restored]
    cases snapshot.restore <;> simp [eq_comm]
  rw [answer, bind_eq_error_iff, restored_iff]
  simp

theorem VerifyRequest.run_eq_error_iff :
    (Command.verify request).run file = .error problem ↔ request.Refused file problem := by
  have answered : ∀ snapshot, (Command.verify request).answer snapshot = request.answer snapshot := fun _ => rfl
  rw [Command.run, bind_eq_error_iff, Refused]
  simp only [answered, answer_eq_error_iff, exists_and_left]
  rfl

/-- **A verification that fails has written nothing**, and it fails only for want of a graph. -/
theorem VerifyRequest.on_steps_eq_error_iff {out after : Text} :
    (request.steps file).on out = (.error problem, after) ↔ request.Refused file problem ∧ after = out := by
  rw [on_steps, ← run_eq_error_iff]
  cases (Command.verify request).run file with
  | ok answer => simp [leaves]
  | error cause => simp [leaves, eq_comm]

/-- A verification of a snapshot that can be restored has an answer, and writes it behind what is there. -/
theorem answer_and_steps_of_restore (restored : snapshot.restore = .ok g) (request : VerifyRequest) :
    let v := verifyGraph g request.touched request.rollback
    request.answer snapshot = .ok ⟨v.outcome != .stable, request.format.write v⟩ ∧
      ∀ file before, load request.snapshot file = .ok snapshot →
        (request.steps file).on before = (.ok (v.outcome != .stable), before ++ request.format.write v) := by
  have answered := answer_of_restore restored request
  refine ⟨answered, fun file before loaded => ?_⟩
  rw [VerifyRequest.on_steps_of_loaded loaded, answered]
  rfl

/-- **The verdict, the sections of the report and every format of a verification agree.**

- A report, whatever it comes from, is empty exactly if its document is the empty object, if its text is empty, and if
  none of its sections has anything to say.  A section has something to say exactly if its title is a key of the
  document, and if its heading begins one of the lines that the text is written as.  In the text itself the heading may
  also begin a line inside of what stands in a section.
- Let a snapshot be restored.  Then, whatever services are touched and whether or not a rollback is asked for, there is
  one answer for all formats.  It is that there are problems exactly if a report with a section is attached, and what is
  written tells the same.  The program writes that behind what the output holds.
- A verification that comes to no answer writes nothing, and this is so exactly if the snapshot cannot be loaded or not
  be restored. -/
theorem formats_agree :
    (∀ r : DiagnosticReport, (r.isEmpty = true ↔ r.toJson = .object []) ∧ (r.isEmpty = true ↔ r.text = []) ∧
      (r.isEmpty = true ↔ ∀ s : ReportSection, s.isIn r = false) ∧
      ∃ members, r.toJson = .object members ∧
        ∀ s : ReportSection, (s.title ∈ members.map Prod.fst ↔ s.isIn r = true) ∧ (s.Shown r ↔ s.isIn r = true) ∧
          (Text.StartsLine s.heading r.text ↔
            s.isIn r = true ∨ ∃ entry ∈ r.sections, '\n' :: s.heading <:+: entry)) ∧
    (∀ (snapshot : RuntimeSnapshot) (g : Graph), snapshot.restore = .ok g → ∀ touched rollback,
      let v := verifyGraph g touched rollback
      ∃ problems : Bool,
        (problems = true ↔
          ∃ report, v.context.report? = some report ∧ ∃ s : ReportSection, s.isIn report = true) ∧
        ∀ path format, ∃ out, ReportFormat.Tells problems rollback (reportOf v) out format ∧
          (VerifyRequest.mk path touched format rollback).answer snapshot = .ok ⟨problems, out⟩ ∧
          ∀ file before, load path file = .ok snapshot →
            ((VerifyRequest.mk path touched format rollback).steps file).on before = (.ok problems, before ++ out)) ∧
    ∀ (request : VerifyRequest) file problem (before after : Text),
      (request.steps file).on before = (.error problem, after) ↔ request.Refused file problem ∧ after = before := by
  refine ⟨fun r => ?_, fun snapshot g restored touched rollback => ?_, fun request file problem before after =>
    VerifyRequest.on_steps_eq_error_iff⟩
  · refine ⟨ReportSection.toJson_eq_iff.symm, ReportSection.text_eq_nil_iff.symm, ReportSection.isEmpty_iff_forall,
      r.members, rfl, fun s => ?_⟩
    exact ⟨ReportSection.title_mem_keys_iff, ReportSection.shown_iff, ReportSection.startsLine_text_iff⟩
  · obtain ⟨sound, tells⟩ := verdict_agrees restored touched rollback
    exact ⟨_, sound, fun path format =>
      ⟨_, tells format, answer_and_steps_of_restore restored ⟨path, touched, format, rollback⟩⟩⟩

/-- A failure of two lines, the second of which is the heading of a section that is not there. -/
def misleading : Text := "no disk\nservices-missing-dependencies:".toList

def brokenSnapshot : RuntimeSnapshot := ⟨[⟨Graph.simpleName "db", .active, .failed, some ⟨misleading, []⟩, []⟩]⟩

def brokenReport : DiagnosticReport :=
  ⟨.ofList [(Graph.simpleName "db", misleading)], .ofList [Graph.simpleName "db"], [], none⟩

theorem formats_agree_on_broken :
    let request : VerifyRequest := ⟨"s.json".toList, [], .text, true⟩
    (ReportSection.lines.isIn brokenReport = false ∧ ¬ ReportSection.lines.Shown brokenReport ∧
      Text.StartsLine ReportSection.lines.heading brokenReport.text) ∧
    (∃ g out, brokenSnapshot.restore = .ok g ∧ out ≠ Text.line "stable".toList ∧
      (request.steps (some brokenSnapshot.toJson.compact)).on ['>'] = (.ok true, '>' :: out)) ∧
    (request.steps none).on ['>'] = (.error (.unreadable "s.json".toList), ['>']) := by
  intro request
  obtain ⟨forms, verified, refused⟩ := formats_agree
  refine ⟨?_, ?_, (refused ..).2 ⟨Or.inl rfl, rfl⟩⟩
  · obtain ⟨-, -, -, members, -, sections⟩ := forms brokenReport
    obtain ⟨-, shown, begins⟩ := sections .lines
    refine ⟨by decide, fun present => absurd (shown.1 present) (by decide), begins.2 (Or.inr ?_)⟩
    exact ⟨"  db: ".toList ++ misleading, by decide, by decide⟩
  · obtain ⟨g, restored⟩ := RuntimeSnapshot.exists_restore_of_nodup (s := brokenSnapshot) (by decide)
    obtain ⟨problems, -, agreed⟩ := verified brokenSnapshot g restored request.touched request.rollback
    obtain ⟨out, tells, answered, wrote⟩ := agreed request.snapshot request.format
    have wrong : (request.answer brokenSnapshot).map Answer.problems = .ok true := by cbv
    rw [answered] at wrong
    obtain rfl : problems = true := Except.ok.inj wrong
    have loaded : load request.snapshot (some brokenSnapshot.toJson.compact) = .ok brokenSnapshot := by decide +kernel
    exact ⟨g, out, restored, fun stable => absurd (tells.1.1 stable) (by decide), wrote _ ['>'] loaded⟩

end CommandLine
end ServiceStability
