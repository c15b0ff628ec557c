import InstanceOperator.Proofs.Drift.Extension
import InstanceOperator.Proofs.Site.Collection

/-!
# What passes report of a dependent

A pass counts a difference of a dependent that it has looked up and found to differ. If a dependent
was put there by a pass and has since then only been extended, every lookup finds an extension of
what was built, and so no difference; and a pass that began since then has made its lookup since
then, so it counts none, whatever has become of the instance apart from its identity.

* `Job.MadeIn`: the job has made its moves in some part of a run, as every job that began in that
  part has.
* `Site.Runs.stored`, `Site.Runs.found`: what holds of everything that is put in a place holds of
  what is stored there, and of what a lookup finds there.
* `passCourse_reports`: a pass counts only what its lookup has found.
* `extensions_not_reported`: the result.
-/

namespace InstanceOperator

/-! ## Counting differences -/

/-- A difference is counted only where there is one. -/
theorem count_mem_driftMoves {policy : DriftPolicy} {want live : Dependent} {kind : Kind}
    (h : .left (.count (.drifted kind)) ∈ driftMoves policy want live) :
    want.kind = kind ∧ detectDrift want live ≠ [] := by
  unfold driftMoves at h
  split at h
  · next hreport =>
    have hkind : kind = want.kind := by simpa using h
    exact ⟨hkind.symm, hreport.2⟩
  · cases h

theorem mem_of_split {ms past rest : List Move} {m : Move} (h : ms = past ++ m :: rest) :
    m ∈ ms := by
  rw [h]
  exact List.mem_append_right _ List.mem_cons_self

/-- What a series of lookups counts was found by one of them. -/
theorem series_reports {policy : DriftPolicy} {key : ObjectKey} {wants : List Dependent}
    {ms : List Move} {result : PassEnd} (hseries : Series policy key wants ms result)
    {past rest : List Move} {kind : Kind}
    (hms : ms = past ++ .left (.count (.drifted kind)) :: rest) :
    ∃ want ∈ wants, want.kind = kind ∧ ∃ before live more,
      past = before ++ .asked (.get want.kind want.key) (.ok live) :: more ∧
      detectDrift want live ≠ [] := by
  induction hseries generalizing past with
  | @found want wants ms result live tail ih =>
    cases past with
    | nil => cases hms
    | cons m past =>
      obtain ⟨rfl, htail⟩ := List.cons.inj hms
      rcases List.append_eq_append_iff.1 htail with ⟨later, rfl, hlater⟩ | ⟨own, hown, hrest⟩
      · -- a later lookup has found it
        obtain ⟨want', hwant', hkind, before, live', more, rfl, hdiffers⟩ := ih hlater
        exact ⟨want', List.mem_cons_of_mem _ hwant', hkind,
          .asked (.get want.kind want.key) (.ok live) :: (driftMoves policy want live ++ before),
          live', more, by simp, hdiffers⟩
      · cases own with
        | nil =>
          -- the rest does not begin with a count: it begins with a lookup, if with anything
          obtain ⟨want', -, -, before, live', more, hnil, -⟩ := @ih [] hrest.symm
          simp at hnil
        | cons m own =>
          -- this lookup has found it
          obtain ⟨rfl, -⟩ := List.cons.inj hrest
          obtain ⟨hkind, hdiffers⟩ := count_mem_driftMoves (mem_of_split hown)
          exact ⟨want, List.mem_cons_self, hkind, [], live, past, rfl, hdiffers⟩
  | nil => cases mem_of_split hms
  | unseen e he =>
    have hmem := mem_of_split hms
    simp at hmem
  | created target =>
    have hmem := mem_of_split hms
    simp at hmem
  | outrun target target' =>
    have hmem := mem_of_split hms
    simp at hmem
  | refused target e he =>
    have hmem := mem_of_split hms
    simp at hmem

/-- A pass counts a difference only of a dependent that it has looked up, for the instance that it
has fetched before, and found to differ. -/
theorem passCourse_reports {policy : DriftPolicy} {key : ObjectKey} {past rest : List Move}
    {kind : Kind} {result : PassEnd}
    (hcourse : PassCourse policy key (past ++ .left (.count (.drifted kind)) :: rest) result) :
    ∃ i desired before live more, desiredState i = .ok desired ∧ Job.fetched? past = some i ∧
      past = before ++ .asked (.get kind (desired.get kind).key) (.ok live) :: more ∧
      detectDrift (desired.get kind) live ≠ [] := by
  generalize hms : past ++ .left (.count (.drifted kind)) :: rest = ms at hcourse
  have hmem := mem_of_split hms.symm
  cases hcourse with
  | absent target => simp at hmem
  | unfetched e he => simp at hmem
  | terminating i hi => simp at hmem
  | malformed i cause hi hd => simp at hmem
  | served i desired hi hd hs =>
    cases past with
    | nil => cases hms
    | cons m past =>
      obtain ⟨rfl, htail⟩ := List.cons.inj hms
      -- the first move is the fetch, so the report is one of the series behind it
      obtain ⟨want, hwant, hkind, before, live, more, rfl, hdiffers⟩ := series_reports hs htail.symm
      obtain ⟨kind', -, rfl⟩ := List.mem_map.1 hwant
      rw [kind_get_of_desiredState hd] at hkind
      subst hkind
      refine ⟨i, desired, .asked (.getInstance key) (.ok i) :: before, live, more, hd, rfl, ?_,
        hdiffers⟩
      rw [kind_get_of_desiredState hd]
      rfl

/-! ## Jobs of a part of a run -/

/-- The job has made all its moves so far in these moments. -/
def Job.MadeIn (job : Job) (trail : List Moment) : Prop :=
  ∀ before mv more, job.past = before ++ mv :: more →
    ∃ m ∈ trail, ∃ rest, m.act = .move ⟨job.task, before, rest⟩ mv

namespace Site

variable {start now : Site} {trail : List Moment}

/-- What holds of the dependent in a place, and of everything that is put there, holds of what is
stored there at the end. -/
theorem Runs.stored (hrun : Runs start trail now) {k : Kind × ObjectKey} {P : Dependent → Prop}
    (hstart : ∀ d, start.store.dependents.get? k = some d → P d)
    (hputs : ∀ m ∈ trail, ∀ d, m.Puts k d → P d) :
    ∀ d, now.store.dependents.get? k = some d → P d := by
  induction hrun with
  | refl => exact hstart
  | @step trail now next m earlier last ih =>
    intro d hd
    have hearlier := ih fun m' hm' => hputs m' (List.mem_cons_of_mem _ hm')
    by_cases hsame : m.before.dependents.get? k = some d
    · rw [last.before] at hsame
      exact hearlier d hsame
    · rw [← last.after] at hd
      exact hputs m List.mem_cons_self d ⟨hd, hsame⟩

end Site

/-- A lookup that succeeds has found what is stored. -/
theorem Moment.Real.finds {m : Moment} (hreal : m.Real) {job : Job} {kind : Kind} {key : ObjectKey}
    {live : Dependent} (hact : m.act = .move job (.asked (.get kind key) (.ok live))) :
    m.before.dependents.get? (kind, key) = some live := by
  cases hreal with
  | asked hcourse hreply =>
    cases hact
    exact hreply.found
  | left s hcourse => cases hact
  | begin s task => cases hact
  | finished s elapsed hcourse => cases hact
  | settled s i cause => cases hact
  | changed s ch => cases hact

/-- What holds of the dependent in a place, and of everything that is put there, holds of whatever a
lookup finds there. -/
theorem Site.Runs.found {start now : Site} {trail : List Moment} (hrun : Runs start trail now)
    (hreal : ∀ m ∈ trail, m.Real) {kind : Kind} {key : ObjectKey} {P : Dependent → Prop}
    (hstart : ∀ d, start.store.dependents.get? (kind, key) = some d → P d)
    (hputs : ∀ m ∈ trail, ∀ d, m.Puts (kind, key) d → P d) :
    ∀ m ∈ trail, ∀ job live, m.act = .move job (.asked (.get kind key) (.ok live)) → P live := by
  intro m hm job live hact
  have hfound := (hreal m hm).finds hact
  obtain ⟨newer, older, rfl⟩ := List.append_of_mem hm
  obtain ⟨prior, _, hearlier, hstep, -⟩ := hrun.around
  rw [hstep.before] at hfound
  exact hearlier.stored hstart
    (fun m' hm' => hputs m' (List.mem_append_right _ (List.mem_cons_of_mem _ hm'))) live hfound

/-- A pass that counts a difference has looked the dependent up and found it to differ. -/
theorem Moment.Real.reports {m : Moment} (hreal : m.Real) {job : Job} {policy : DriftPolicy}
    {key : ObjectKey} (htask : job.task = .pass policy key) {kind : Kind}
    (hact : m.act = .move job (.left (.count (.drifted kind)))) :
    ∃ i desired before live more, desiredState i = .ok desired ∧ Job.fetched? job.past = some i ∧
      job.past = before ++ .asked (.get kind (desired.get kind).key) (.ok live) :: more ∧
      detectDrift (desired.get kind) live ≠ [] := by
  cases hreal with
  | left s hcourse =>
    cases hact
    obtain ⟨ms, finish, hcourse⟩ := hcourse
    rw [htask] at hcourse
    cases hcourse with
    | pass hcourse => exact passCourse_reports hcourse
  | asked hcourse hreply => cases hact
  | begin s task => cases hact
  | finished s elapsed hcourse => cases hact
  | settled s i cause => cases hact
  | changed s ch => cases hact

/-! ## The result -/

/-- **Nothing is reported of a dependent that was only extended.** No difference is found in what
extends a desired dependent. So in every run that begins with no job under way, in which a pass has
put a dependent and whatever is put in its place later extends it, each later lookup by a pass for
an instance of the same identity finds no difference from what was built, and no such pass that
began later counts one, whatever else has become of the instance. -/
theorem extensions_not_reported :
    (∀ i desired kind live, desiredState i = .ok desired → live.Extends (desired.get kind) →
      detectDrift (desired.get kind) live = []) ∧
    ∀ start now later put earlier, start.jobs = [] → Site.Runs start (later ++ put :: earlier) now →
      ∀ past i k d, put.PassPuts past k d → Job.fetched? past = some i →
        (∀ m ∈ later, ∀ live, m.Puts k live → live.Extends d) →
        ∀ m ∈ later, ∀ job mv policy key j, m.act = .move job mv → job.task = .pass policy key →
          Job.fetched? job.past = some j → j.metadata.name = i.metadata.name →
          j.metadata.ns = i.metadata.ns → j.metadata.uid = i.metadata.uid →
          ∃ desired, desiredState j = .ok desired ∧ desired.get k.1 = d ∧
            (∀ live, mv = .asked (.get k.1 k.2) (.ok live) → detectDrift d live = []) ∧
            (mv = .left (.count (.drifted k.1)) → ¬ job.MadeIn later) := by
  have hstatic : ∀ i desired kind live, desiredState i = .ok desired →
      live.Extends (desired.get kind) → detectDrift (desired.get kind) live = [] := by
    intro i desired kind live hd hlive
    obtain ⟨identity, -, hget⟩ := exists_identity_of_desiredState hd
    rw [hget] at hlive ⊢
    exact Identity.no_difference_of_extends hlive
  refine ⟨hstatic, ?_⟩
  intro start now later put earlier hidle hrun past i k d hputs hi hextended
  have hreal := hrun.real (Site.sound_of_idle hidle)
  obtain ⟨prior, next, -, hput, hlater⟩ := hrun.around
  obtain ⟨i', desired, kind, hi', hd, rfl, rfl⟩ := (hreal put (by simp)).passPuts hputs
  rw [hi] at hi'
  cases hi'
  rw [kind_get_of_desiredState hd] at hputs hextended ⊢
  -- what the pass has put extends itself, so whatever is found in its place later extends it
  have hself : (desired.get kind).Extends (desired.get kind) := by
    obtain ⟨identity, -, hget⟩ := exists_identity_of_desiredState hd
    rw [hget]
    exact identity.extends_dependent kind
  have hstored : ∀ live, next.store.dependents.get? (kind, (desired.get kind).key) = some live →
      live.Extends (desired.get kind) := by
    intro live hlive
    obtain ⟨-, -, -, -, -, hafter, -⟩ := hputs
    rw [← hput.after, hafter] at hlive
    cases hlive
    exact hself
  have hfinds : ∀ m ∈ later, ∀ job live,
      m.act = .move job (.asked (.get kind (desired.get kind).key) (.ok live)) →
      detectDrift (desired.get kind) live = [] := by
    intro m hm job live hact
    have hlive := hlater.found (fun m hm => hreal m (List.mem_append_left _ hm)) hstored hextended
      m hm job live hact
    exact hstatic i desired kind live hd hlive
  intro m hm job mv policy key j hact htask hj hname hns huid
  have hdj : desiredState j = .ok desired := (desiredState_congr hname hns huid).trans hd
  refine ⟨desired, hdj, rfl, ?_, ?_⟩
  · rintro live rfl
    exact hfinds m hm job live hact
  · rintro rfl hmade
    obtain ⟨j', desired', before, live, more, hd', hj', hpast, hdiffers⟩ :=
      (hreal m (List.mem_append_left _ hm)).reports htask hact
    rw [hj] at hj'
    cases hj'
    rw [hdj] at hd'
    cases hd'
    -- the lookup was made in the later part, and so has found no difference
    obtain ⟨m', hm', rest, hact'⟩ := hmade before _ more hpast
    exact hdiffers (hfinds m' hm' _ live hact')

section extended

/-- The identity of the instance below. -/
private def mine : Identity := ⟨"mine", "prod", "u-1"⟩

/-- The place of its deployment. -/
private def berth : Kind × ObjectKey := (.deployment, ⟨"prod", "mine-deployment"⟩)

/-- Its deployment, to which someone has added a label and a container in front. -/
private def joinedDeployment : Deployment where
  metadata := { mine.metadata .deployment with labels := some (mine.labels.insert "team" "data") }
  spec := some {
    replicas := some 3
    selector := { matchLabels := some mine.labels }
    template := {
      spec := some { containers := [{ name := "sidecar" }, Identity.container] } } }

/-- A label and a container in front take nothing away from the deployment. -/
private theorem joined_extends :
    (Dependent.deployment joinedDeployment).Extends (mine.dependent .deployment) := by
  refine .deployment ⟨?_, fun owner howner => howner⟩ ⟨fun labels hlabels => ?_, fun c hc => ?_⟩
  · intro key value hlabel
    rcases Identity.hasLabel_iff.1 hlabel with ⟨rfl, rfl⟩ | ⟨rfl, rfl⟩
    · exact ⟨_, rfl, by decide⟩
    · exact ⟨_, rfl, by decide⟩
  · obtain rfl := Identity.deployment_selects_iff.1 hlabels
    exact ⟨_, rfl, rfl⟩
  · obtain rfl := Identity.deployment_runs_iff.1 hc
    exact ⟨[{ name := "sidecar" }], Identity.container, [], ⟨_, _, rfl, rfl, rfl⟩, .refl _,
      by decide⟩

/-- The pass over the instance below. -/
private def review : Task := .pass .report ⟨"prod", "mine"⟩

/-- A pass puts a deployment, someone extends it, and the next pass finds it without differences. -/
theorem joined_deployment_not_reported :
    ∃ now later put earlier past m job,
      Site.Runs Site.blank (later ++ put :: earlier) now ∧
      put.PassPuts past berth (mine.dependent .deployment) ∧
      Job.fetched? past = some mine.bare ∧
      (∀ m ∈ later, ∀ live, m.Puts berth live → live.Extends (mine.dependent .deployment)) ∧
      m ∈ later ∧ m.act = .move job
        (.asked (.get berth.1 berth.2) (.ok (.deployment joinedDeployment))) ∧
      job.task = review ∧ Job.fetched? job.past = some mine.bare ∧
      detectDrift (mine.dependent .deployment) (.deployment joinedDeployment) = [] := by
  have hrun : ∃ now later put earlier past m job,
      Site.Runs Site.blank (later ++ put :: earlier) now ∧
      put.PassPuts past berth (mine.dependent .deployment) ∧
      Job.fetched? past = some mine.bare ∧
      (∀ m ∈ later, ∀ live, m.Puts berth live → live.Extends (mine.dependent .deployment)) ∧
      m ∈ later ∧ m.act = .move job
        (.asked (.get berth.1 berth.2) (.ok (.deployment joinedDeployment))) ∧
      job.task = review ∧ Job.fetched? job.past = some mine.bare := by
    -- a pass creates the deployment, someone replaces it, and a second pass looks it up
    have hadd : Site.Runs Site.blank _ _ := .step .refl (.change (.addInstance mine.bare))
    have hbegin := hadd.step (.begin review Instant.origin)
    have hfetch := hbegin.step (@Site.Step.serve _ _ _ [] [] _ _ _ _ _ rfl rfl)
    have hlookup := hfetch.step (@Site.Step.serve _ _ _ [] [] _ _ _ _ _ rfl rfl)
    have hcreate := hlookup.step (@Site.Step.serve _ _ _ [] [] _ _ _ _ _ rfl rfl)
    have hextend := hcreate.step (.change (.addDependent (.deployment joinedDeployment)))
    have hagain := hextend.step (.begin review Instant.origin)
    have hrefetch := hagain.step (@Site.Step.serve _ _ _ [_] [] _ _ _ _ _ rfl rfl)
    have hfind := hrefetch.step (@Site.Step.serve _ _ _ [_] [] _ _ _ _ _ rfl rfl)
    refine ⟨_, [_, _, _, _], _, _, _, _, _, hfind, ⟨_, _, _, _, rfl, rfl, nofun⟩, rfl, ?_,
      List.mem_cons_self, rfl, rfl, rfl⟩
    intro m hm live hputs
    simp only [List.mem_cons, List.not_mem_nil, or_false] at hm
    rcases hm with rfl | rfl | rfl | rfl
    · exact absurd hputs.1 hputs.2
    · exact absurd hputs.1 hputs.2
    · exact absurd hputs.1 hputs.2
    · obtain rfl : Dependent.deployment joinedDeployment = live := Option.some.inj hputs.1
      exact joined_extends
  obtain ⟨now, later, put, earlier, past, m, job, hrun, hputs, hi, hextended, hm, hact, htask,
    hj⟩ := hrun
  obtain ⟨desired, -, hget, hfinds, -⟩ := extensions_not_reported.2 Site.blank now later put
    earlier rfl hrun past mine.bare berth (mine.dependent .deployment) hputs hi hextended m hm job _
    .report ⟨"prod", "mine"⟩ mine.bare hact htask hj rfl rfl rfl
  exact ⟨now, later, put, earlier, past, m, job, hrun, hputs, hi, hextended, hm, hact, htask, hj,
    hfinds _ rfl⟩

end extended

end InstanceOperator
