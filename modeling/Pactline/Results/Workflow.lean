import Pactline.Analysis.Uploads
import Pactline.Results.Completion

/-!
# The course of a Task

The commands of the workflow are the moves of one automaton on the phase, the activity and the
review cycle of a Task (`TaskLifecycle.Edge`). Whatever overlaps, a Task goes along its edges, from
the backlog on. And what a commit has stored for good is not undone by any later one.
-/

set_option autoImplicit false

namespace Pactline

open ReadCommitted Relation

/-! ## The automaton -/

namespace TaskLifecycle

variable {l l' : TaskLifecycle}

/-- The moves of a Task, as the workflow is meant. -/
inductive Edge (l : TaskLifecycle) : TaskLifecycle → Prop
  | ready (h : l.phase = .backlog) (h' : l.activity = .unset) : Edge l { l with phase := .ready }
  | withdraw (h : l.phase = .ready) (h' : l.activity = .unset) :
      Edge l { l with phase := .backlog }
  | start (h : l.phase = .ready) (h' : l.activity = .unset) :
      Edge l { l with phase := .inProgress, activity := .working }
  | claim (h : l.phase.Active) (h' : l.activity = .available) :
      Edge l { l with activity := .working }
  | release {stage} (h : l.WorkingAt stage) : Edge l { l with activity := .available }
  | block {stage} (h : l.WorkingAt stage) : Edge l { l with activity := .needsResolution }
  | resolve (h : l.phase.Active) (h' : l.activity = .needsResolution) :
      Edge l { l with activity := .available }
  | complete (h : l.WorkingAt .execution) : Edge l ⟨.inReview, .available, l.reviewCycle + 1⟩
  | change (h : l.WorkingAt .review) :
      Edge l { l with phase := .inProgress, activity := .available }
  | accept (h : l.WorkingAt .review) : Edge l { l with phase := .done, activity := .unset }
  | cancel (h : ¬ l.phase.Terminal) : Edge l { l with phase := .cancelled, activity := .unset }

abbrev Path : TaskLifecycle → TaskLifecycle → Prop := ReflTransGen Edge

theorem claim_edge {archived stage} (h : l.claim archived = .ok (l', stage)) : l.Edge l' := by
  obtain ⟨-, hwork, hcycle, hbefore⟩ := claim_ok h
  obtain ⟨phase, activity, cycle⟩ := l'
  obtain rfl : activity = .working := hwork.activity
  obtain rfl : cycle = l.reviewCycle := hcycle
  rcases hbefore with ⟨hphase, hactivity, rfl⟩ | ⟨hphase, hactivity, rfl⟩
  · exact .start hphase hactivity
  · exact .claim hphase hactivity

end TaskLifecycle

/-! ## The commands -/

section Steps

variable {platform : Platform} {d : Db} {t : TaskId} {c : Cmd} {r r' : TaskRecord}
  {log : List Entry}

open TaskLifecycle

/-- A command moves its Task along the automaton. -/
theorem TaskStep.path (h : TaskStep d t c r r') : Path r.row.lifecycle r'.row.lifecycle := by
  cases h with
  | markReady _ _ hphase hactivity => exact .single (.ready hphase hactivity)
  | withdrawReadiness _ _ hphase hactivity => exact .single (.withdraw hphase hactivity)
  | claim _ _ hexpiry hclaim =>
    -- A Claim that is past its deadline is released first.
    have hedge := claim_edge hclaim
    cases hexpiry with
    | notDue => exact .single hedge
    | due _ _ _ hwork => exact .tail (.single (.release hwork)) hedge
  | expireDueClaim _ _ _ hwork | releaseClaim _ hwork => exact .single (.release hwork)
  | completeExecution _ hwork => exact .single (.complete hwork)
  | requestChanges _ hwork => exact .single (.change hwork)
  | requestResolution _ hwork => exact .single (.block hwork)
  | resolveIssue _ _ _ _ _ _ _ hphase hactivity => exact .single (.resolve hphase hactivity)
  | acceptTask _ hwork => exact .single (.accept hwork)
  | cancelTask _ _ _ hphase => exact .single (.cancel hphase)
  | _ => exact .refl

/-- So does every commit, or leaves it where it is. -/
theorem TaskChange.path (h : TaskChange d t c (some r) r') :
    Path r.row.lifecycle r'.row.lifecycle := by
  cases h with
  | step step => exact step.path
  | update _ edited => exact edited.patched.lifecycle ▸ .refl
  | follow _ _ _ follows => exact follows.lifecycle ▸ .refl
  | same | attach => exact .refl

end Steps

/-! ## Results -/

section Results

variable {platform : Platform} {es : Schedule} {cfg : SystemConfig} {e : Entry}

/-- The history that a commit stands in and the one that follows it. -/
theorem histories_of_runFrom (h : runFrom platform Db.empty es = some cfg) (he : e ∈ cfg.log) :
    ∃ older newer, History platform Db.empty older e.after ∧ Lawful e.after ∧
      History platform e.after newer cfg.db := by
  have hhistory := history_of_runFrom lawful_empty h
  obtain ⟨newer, older, hlog, -, hafter, -⟩ := commit_of_runFrom h he
  rw [hlog] at hhistory
  exact ⟨_, newer, hafter, hafter.lawful lawful_empty, (Serial.split hhistory).1⟩

/-- What a commit has stored for good stands at the end: a Task with its Project, its terminal phase
and its Claims, of which none comes back to life; an upload that is settled; and an attachment with
its file, and deleted if it was. -/
theorem stored_facts_stay (h : runFrom platform Db.empty es = some cfg) (he : e ∈ cfg.log) :
    (∀ t r, e.after.task t = some r → ∃ r', cfg.db.task t = some r' ∧ r.Keeps r') ∧
      e.after.uploads.Kept AttachmentUploadSession.Keeps cfg.db.uploads ∧
      e.after.attachments.Kept TaskAttachment.Keeps cfg.db.attachments := by
  obtain ⟨_, _, -, hlaw, hlater⟩ := histories_of_runFrom h he
  refine ⟨fun t r hr => ?_, hlater.keptUploads, hlater.keptAttachments⟩
  obtain ⟨r', hr', hkeeps, -⟩ := hlater.keeps_along hlaw hr trivial fun _ _ => trivial
  exact ⟨r', hr', hkeeps⟩

/-- The Claim under which the execution was completed is there at the end, and still is
not active. -/
theorem stored_facts_stay_settled :
    ∃ cfg e r r', runFrom asciiPlatform Db.empty
        (.connect (.script settledScript) :: advances 0 103) = some cfg ∧ e ∈ cfg.log ∧
      e.after.task 1 = some r ∧ r.row.lifecycle.phase = .inReview ∧ cfg.db.task 1 = some r' ∧
      ∃ k ∈ r.claims, k.status ≠ .active ∧ ∃ k' ∈ r'.claims, k.Keeps k' := by
  obtain ⟨cfg, hcfg, e, he, r, hr, hphase, k, hk, hended⟩ : ∃ cfg, runFrom asciiPlatform Db.empty
        (.connect (.script settledScript) :: advances 0 103) = some cfg ∧ ∃ e ∈ cfg.log, ∃ r,
      e.after.task 1 = some r ∧ r.row.lifecycle.phase = .inReview ∧
        ∃ k ∈ r.claims, k.status ≠ .active := by
    decide +kernel
  obtain ⟨r', hr', hkeeps⟩ := (stored_facts_stay hcfg he).1 1 r hr
  exact ⟨cfg, e, r, r', hcfg, he, hr, hphase, hr', k, hk, hended, hkeeps.claims k hk⟩

end Results

end Pactline
