import InstanceOperator.Proofs.Desired.Dependents
import InstanceOperator.Proofs.Site.Basic

/-!
# Owners and their collection

Whatever is done to a store, and however many passes work on it, a pass only puts dependents that
name the instance it has fetched as their one owner. The collector goes by these names: when an
instance is deleted, the dependents that name its unique identifier go with it, and no others do.
So what passes have put for an instance is gone with it, unless it has been replaced before.

* `passCourse_creates`: a pass creates nothing but desired dependents of the instance it has
  fetched.
* `MemoryStore.Replies.put`: a call puts nothing but what it is to create, and only where nothing
  is.
* `dependents_collected`: the result, for every run.
-/

namespace InstanceOperator

/-! ## What a pass creates -/

/-- A series creates nothing but what it is to ensure. -/
theorem series_creates {policy : DriftPolicy} {key : ObjectKey} {wants : List Dependent}
    {ms : List Move} {finish : PassEnd} (hseries : Series policy key wants ms finish)
    {d : Dependent} {result : (Call.create d).Result} (hcreate : .asked (.create d) result ∈ ms) :
    d ∈ wants := by
  induction hseries with
  | nil => cases hcreate
  | @found want rest ms finish live tail ih =>
    rcases mem_found hcreate with h | h | h | h
    · cases h
    · cases h
    · cases h
    · exact List.mem_cons_of_mem _ (ih h)
  | unseen e he => simp at hcreate
  | @created want rest target =>
    obtain ⟨rfl, -⟩ : d = want ∧ result = .ok () := by simpa using hcreate
    exact List.mem_cons_self
  | @outrun want rest target target' =>
    obtain ⟨rfl, -⟩ : d = want ∧ result = .error (.alreadyExists target') := by
      simpa using hcreate
    exact List.mem_cons_self
  | @refused want rest target e he =>
    obtain ⟨rfl, -⟩ : d = want ∧ result = .error e := by simpa using hcreate
    exact List.mem_cons_self

/-- A pass creates nothing but desired dependents of the instance that it has fetched before. -/
theorem passCourse_creates {policy : DriftPolicy} {key : ObjectKey} {past ms : List Move}
    {finish : PassEnd} {d : Dependent} {result : (Call.create d).Result}
    (hcourse : PassCourse policy key (past ++ .asked (.create d) result :: ms) finish) :
    ∃ i desired kind, Job.fetched? past = some i ∧ desiredState i = .ok desired ∧
      d = desired.get kind := by
  cases past with
  | nil => cases hcourse
  | cons m past =>
    have hmem : .asked (.create d) result ∈ past ++ .asked (.create d) result :: ms := by simp
    generalize htail : past ++ .asked (.create d) result :: ms = tail at hmem
    rw [List.cons_append, htail] at hcourse
    cases hcourse with
    | absent target => cases hmem
    | unfetched e he => simp at hmem
    | terminating i hi => simp at hmem
    | malformed i cause hi hd => cases hmem
    | served i desired hi hd hs =>
      obtain ⟨kind, -, rfl⟩ := List.mem_map.1 (series_creates hs hmem)
      exact ⟨i, desired, kind, rfl, hd, rfl⟩

/-! ## The owner of a desired dependent -/

/-- The desired dependents of an instance name it as their one owner, and lie in its namespace. -/
theorem owners_of_desiredState {i : Instance} {desired : PerKind Dependent}
    (h : desiredState i = .ok desired) (kind : Kind) :
    ∃ o, (desired.get kind).owners = [o] ∧ o.apiVersion = instanceApiVersion ∧
      o.kind = instanceKind ∧ i.metadata.name = some o.name ∧ i.metadata.uid = some o.uid ∧
      o.controller = some true ∧ o.blockOwnerDeletion = some true ∧
      (desired.get kind).metadata.ns = i.metadata.ns := by
  obtain ⟨identity, hidentity, hget⟩ := exists_identity_of_desiredState h
  obtain ⟨hname, hns, huid⟩ := Identity.metadata_of_ofInstance hidentity
  have hmetadata : (desired.get kind).metadata = identity.metadata kind := by
    rw [hget]
    cases kind <;> rfl
  refine ⟨identity.owner, ?_, rfl, rfl, hname, huid, rfl, rfl, ?_⟩
  · rw [Dependent.owners, hmetadata]
    rfl
  · rw [hmetadata, hns]
    rfl

/-! ## What steps put into a store -/

/-- A dependent is stored behind the moment under a key under which it was not stored before. -/
def Moment.Puts (m : Moment) (k : Kind × ObjectKey) (d : Dependent) : Prop :=
  m.after.dependents.get? k = some d ∧ m.before.dependents.get? k ≠ some d

/-- A pass that has made these moves puts a dependent. -/
def Moment.PassPuts (m : Moment) (past : List Move) (k : Kind × ObjectKey) (d : Dependent) : Prop :=
  ∃ policy key rest mv, m.act = .move ⟨.pass policy key, past, rest⟩ mv ∧ m.Puts k d

/-- An instance with this unique identifier is deleted. -/
def Moment.Deletes (m : Moment) (uid : String) : Prop :=
  ∃ key i, m.act = .change (.deleteInstance key) ∧ m.before.instances.get? key = some i ∧
    i.metadata.uid = some uid

namespace MemoryStore

theorem get?_addDependent (s : MemoryStore) (d : Dependent) (k : Kind × ObjectKey) :
    (s.addDependent d).dependents.get? k =
      if (d.kind, d.key) = k then some d else s.dependents.get? k :=
  Registry.get?_insert _ _ _ _

/-- What is new behind a creation is the object that was to be created, in a place that was free. -/
private theorem put_of_added {s t : MemoryStore} {made d : Dependent} {k : Kind × ObjectKey}
    (hfree : s.dependents.get? (made.kind, made.key) = none)
    (hadded : t.dependents = (s.addDependent made).dependents)
    (hafter : t.dependents.get? k = some d) (hbefore : s.dependents.get? k ≠ some d) :
    made = d ∧ k = (d.kind, d.key) ∧ s.dependents.get? k = none := by
  rw [hadded, get?_addDependent] at hafter
  split at hafter
  · next hk =>
    cases hafter
    exact ⟨rfl, hk.symm, by rw [← hk]; exact hfree⟩
  · exact absurd hafter hbefore

/-- A call puts nothing but the object that it is to create, and only where nothing is. -/
theorem Replies.put {s t : MemoryStore} {c : Call} {result : c.Result} (h : s.Replies c result t)
    {k : Kind × ObjectKey} {d : Dependent} (hafter : t.dependents.get? k = some d)
    (hbefore : s.dependents.get? k ≠ some d) :
    c = .create d ∧ k = (d.kind, d.key) ∧ s.dependents.get? k = none := by
  have hsame : ¬ s.Same t := by
    intro hsame
    rw [hsame.dependents] at hbefore
    exact hbefore hafter
  cases c with
  | getInstance key => exact absurd (h.same (by simp)) hsame
  | get kind key => exact absurd (h.same (by simp)) hsame
  | create made =>
    rcases result with e | ⟨⟩
    · cases he : e.isAlreadyExists with
      | false => exact absurd (h.refused he) hsame
      | true =>
        obtain ⟨target, rfl⟩ := StoreError.isAlreadyExists_iff.1 he
        rcases h.outrun with ⟨-, -, hs⟩ | ⟨-, hs⟩
        · exact absurd hs hsame
        · -- the store acts as if someone else had come first, and has put the object itself
          unfold addIfAbsent Registry.contains at hs
          split at hs
          · exact absurd hs hsame
          · next hfree =>
            have hnone : s.dependents.get? (made.kind, made.key) = none := by simpa using hfree
            obtain ⟨rfl, hk, hk'⟩ := put_of_added hnone hs.dependents.symm hafter hbefore
            exact ⟨rfl, hk, hk'⟩
    · obtain ⟨-, hnone, hs⟩ := h.created
      obtain ⟨rfl, hk, hk'⟩ := put_of_added hnone hs.dependents.symm hafter hbefore
      exact ⟨rfl, hk, hk'⟩

theorem ownedBy_eq_false_iff {d : Dependent} {uid : String} :
    ownedBy d uid = false ↔ ∀ o ∈ d.owners, o.uid ≠ uid := by
  simp [ownedBy]

/-- With an instance, the dependents that name it as an owner are deleted, and no others. -/
theorem get?_deleteInstance {s : MemoryStore} {key : ObjectKey} {i : Instance} {uid : String}
    (hi : s.instances.get? key = some i) (huid : i.metadata.uid = some uid)
    (k : Kind × ObjectKey) (d : Dependent) :
    (s.deleteInstance key).dependents.get? k = some d ↔
      s.dependents.get? k = some d ∧ ∀ o ∈ d.owners, o.uid ≠ uid := by
  have hdependents : (s.deleteInstance key).dependents =
      s.dependents.filter fun _ d => !ownedBy d uid := by
    simp only [deleteInstance, hi, huid]
  rw [hdependents, Registry.get?_filter, Option.filter_eq_some_iff, Bool.not_eq_true',
    ownedBy_eq_false_iff]

end MemoryStore

/-! ## Moments of a run -/

/-- What a pass puts names the instance that it has fetched as its one owner. -/
theorem Moment.Real.passPuts {m : Moment} (hreal : m.Real) {past : List Move} {k : Kind × ObjectKey}
    {d : Dependent} (hputs : m.PassPuts past k d) :
    ∃ i desired kind, Job.fetched? past = some i ∧ desiredState i = .ok desired ∧
      d = desired.get kind ∧ k = (d.kind, d.key) := by
  obtain ⟨policy, key, rest, mv, hact, hafter, hbefore⟩ := hputs
  cases hreal with
  | @asked s t job c result hcourse hreply =>
    cases hact
    obtain ⟨rfl, hk, -⟩ := hreply.put hafter hbefore
    obtain ⟨ms, finish, hcourse⟩ := hcourse
    cases hcourse with
    | pass hcourse =>
      obtain ⟨i, desired, kind, hi, hd, rfl⟩ := passCourse_creates hcourse
      exact ⟨i, desired, kind, hi, hd, rfl, hk⟩
  | left s hcourse => exact absurd hafter hbefore
  | begin s task => cases hact
  | finished s elapsed hcourse => cases hact
  | settled s i cause => cases hact
  | changed s ch => cases hact

/-- The deletion of an instance takes away exactly the dependents that name it as an owner. -/
theorem Moment.Real.deletes {m : Moment} (hreal : m.Real) {uid : String} (hdeletes : m.Deletes uid)
    (k : Kind × ObjectKey) (d : Dependent) :
    m.after.dependents.get? k = some d ↔
      m.before.dependents.get? k = some d ∧ ∀ o ∈ d.owners, o.uid ≠ uid := by
  obtain ⟨key, i, hact, hi, huid⟩ := hdeletes
  cases hreal with
  | changed s ch =>
    cases hact
    exact MemoryStore.get?_deleteInstance hi huid k d
  | begin s task => cases hact
  | asked hcourse hreply => cases hact
  | left s hcourse => cases hact
  | finished s elapsed hcourse => cases hact
  | settled s i cause => cases hact

/-- A place into which nothing is put holds what it held before, or nothing. -/
theorem Site.Runs.unput {start now : Site} {trail : List Moment} (hrun : Runs start trail now)
    {k : Kind × ObjectKey} (hnone : ∀ m ∈ trail, ∀ d, ¬ m.Puts k d) {d : Dependent}
    (hnow : now.store.dependents.get? k = some d) : start.store.dependents.get? k = some d := by
  induction hrun with
  | refl => exact hnow
  | @step trail now next m earlier last ih =>
    have hafter : m.after.dependents.get? k = some d := by
      rw [last.after]
      exact hnow
    have hbefore : m.before.dependents.get? k = some d := by
      apply Classical.byContradiction
      intro hne
      exact hnone m List.mem_cons_self d ⟨hafter, hne⟩
    rw [last.before] at hbefore
    exact ih (fun m hm => hnone m (List.mem_cons_of_mem _ hm)) hbefore

/-! ## The result -/

/-- **Dependents are owned by their instance and collected with it.** In every run that begins with
no job under way, whatever passes put carries one owner reference, which is the one to the instance
that the pass has fetched, and lies in its namespace. When an instance is deleted, exactly the
dependents with a reference to its unique identifier are deleted with it. So a dependent that a pass
has put for an instance with that identifier is nowhere to be found then, and its place is free
unless something has been put there in between. -/
theorem dependents_collected {start now : Site} {trail : List Moment} (hidle : start.jobs = [])
    (hrun : Site.Runs start trail now) :
    (∀ m ∈ trail, ∀ past k d, m.PassPuts past k d →
      ∃ i o, Job.fetched? past = some i ∧ d.owners = [o] ∧
        i.metadata.uid = some o.uid ∧ i.metadata.name = some o.name ∧
        o.kind = instanceKind ∧ o.apiVersion = instanceApiVersion ∧
        o.controller = some true ∧ o.blockOwnerDeletion = some true ∧
        k = (d.kind, d.key) ∧ d.metadata.ns = i.metadata.ns) ∧
    (∀ m ∈ trail, ∀ uid, m.Deletes uid → ∀ k d,
      m.after.dependents.get? k = some d ↔
        m.before.dependents.get? k = some d ∧ ∀ o ∈ d.owners, o.uid ≠ uid) ∧
    (∀ later delete between put earlier, trail = later ++ delete :: (between ++ put :: earlier) →
      ∀ past i uid k d, put.PassPuts past k d → Job.fetched? past = some i →
        i.metadata.uid = some uid → delete.Deletes uid →
        (∀ k', delete.after.dependents.get? k' ≠ some d) ∧
        ((∀ m ∈ between, ∀ d', ¬ m.Puts k d') → delete.after.dependents.get? k = none)) := by
  have hreal := hrun.real (Site.sound_of_idle hidle)
  refine ⟨?_, ?_, ?_⟩
  · intro m hm past k d hputs
    obtain ⟨i, desired, kind, hi, hd, rfl, hk⟩ := (hreal m hm).passPuts hputs
    obtain ⟨o, howners, hversion, hkind, hname, huid, hcontroller, hblock, hns⟩ :=
      owners_of_desiredState hd kind
    exact ⟨i, o, hi, howners, huid, hname, hkind, hversion, hcontroller, hblock, hk, hns⟩
  · intro m hm uid hdeletes
    exact (hreal m hm).deletes hdeletes
  · intro later delete between put earlier htrail past i uid k d hputs hi huid hdeletes
    have hdelete := (hreal delete (by rw [htrail]; simp)).deletes hdeletes
    -- what the pass has put is owned by the instance that is deleted
    obtain ⟨j, desired, kind, hj, hd, rfl, -⟩ :=
      (hreal put (by rw [htrail]; simp)).passPuts hputs
    obtain ⟨o, howners, -, -, -, huid', -⟩ := owners_of_desiredState hd kind
    rw [hi] at hj
    cases hj
    rw [huid] at huid'
    have howned : ¬ ∀ o' ∈ (desired.get kind).owners, o'.uid ≠ uid := by
      intro hother
      exact hother o (by rw [howners]; simp) (Option.some.inj huid').symm
    refine ⟨?_, ?_⟩
    · intro k' hk'
      exact howned ((hdelete k' _).1 hk').2
    · intro hnone
      rw [htrail] at hrun
      obtain ⟨prior, next, hearlier, hdel, -⟩ := hrun.around
      obtain ⟨prior', next', -, hput, hbetween⟩ := hearlier.around
      cases hget : delete.after.dependents.get? k with
      | none => rfl
      | some d' =>
        -- it was there before the deletion, so it is what the pass has put, which is gone
        obtain ⟨hbefore, hother⟩ := (hdelete k d').1 hget
        rw [hdel.before] at hbefore
        have hthere := hbetween.unput hnone hbefore
        obtain ⟨-, -, -, -, -, hafter, -⟩ := hputs
        rw [← hput.after, hafter] at hthere
        cases hthere
        exact absurd hother howned

/-- A pass puts the deployment of an instance, which is then deleted: the deployment is gone. -/
theorem deployment_collected :
    ∃ now delete put earlier past k,
      Site.Runs Site.blank (delete :: put :: earlier) now ∧
      put.PassPuts past k ((Identity.mk "mine" "prod" "u-1").dependent .deployment) ∧
      Job.fetched? past = some (Identity.mk "mine" "prod" "u-1").bare ∧ delete.Deletes "u-1" ∧
      delete.before.dependents.get? k =
        some ((Identity.mk "mine" "prod" "u-1").dependent .deployment) ∧
      delete.after.dependents.get? k = none := by
  have hrun : ∃ now delete put earlier past k,
      Site.Runs Site.blank (delete :: put :: earlier) now ∧
      put.PassPuts past k ((Identity.mk "mine" "prod" "u-1").dependent .deployment) ∧
      Job.fetched? past = some (Identity.mk "mine" "prod" "u-1").bare ∧ delete.Deletes "u-1" ∧
      delete.before.dependents.get? k =
        some ((Identity.mk "mine" "prod" "u-1").dependent .deployment) := by
    -- the pass creates the deployment, and the instance is deleted behind it
    have hadd : Site.Runs Site.blank _ _ :=
      .step .refl (.change (.addInstance (Identity.mk "mine" "prod" "u-1").bare))
    have hbegin := hadd.step (.begin (.pass .report ⟨"prod", "mine"⟩) Instant.origin)
    have hfetch := hbegin.step (@Site.Step.serve _ _ _ [] [] _ _ _ _ _ rfl rfl)
    have hlookup := hfetch.step (@Site.Step.serve _ _ _ [] [] _ _ _ _ _ rfl rfl)
    have hcreate := hlookup.step (@Site.Step.serve _ _ _ [] [] _ _ _ _ _ rfl rfl)
    have hdelete := hcreate.step (.change (.deleteInstance ⟨"prod", "mine"⟩))
    exact ⟨_, _, _, _, _, (.deployment, ⟨"prod", "mine-deployment"⟩), hdelete,
      ⟨_, _, _, _, rfl, rfl, nofun⟩, rfl, ⟨_, _, rfl, rfl, rfl⟩, rfl⟩
  obtain ⟨now, delete, put, earlier, past, k, hrun, hputs, hi, hdeletes, hbefore⟩ := hrun
  obtain ⟨-, -, hcollected⟩ := dependents_collected rfl hrun
  obtain ⟨-, hgone⟩ :=
    hcollected [] delete [] put earlier rfl past _ "u-1" k _ hputs hi rfl hdeletes
  exact ⟨now, delete, put, earlier, past, k, hrun, hputs, hi, hdeletes, hbefore, hgone (by simp)⟩

end InstanceOperator
