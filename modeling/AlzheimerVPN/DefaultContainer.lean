import Mathlib.Logic.Function.Basic
import AlzheimerVPN.ContainerUtils

/-! The default container of a self-hosted server, as `InstallController` and `ServersController`
change it. Of the stored configuration these calls need the containers and the default one; it is
read as it was written. A `QMap` keyed by containers is read in the order of the enumeration. -/
namespace AlzheimerVPN.InstallController

open Lifecycle ContainerUtils Runs Function List

structure AdminConfig where
  containers : DockerContainer → Bool
  defaultContainer : DockerContainer

/-- What happens on the server during a call: the containers found there, whether the one asked for
is set up, and which of them are prepared for the administrator. -/
structure Answers where
  installed : Option (DockerContainer → Bool)
  setup : Bool
  prepare : DockerContainer → Bool

variable (supported : DockerContainer → Bool) (answers : Answers) (c : AdminConfig)

/-- The loop of `installContainer`, which saves each container that it has prepared. -/
def installFound (c : AdminConfig) : List DockerContainer → AdminConfig
  | [] => c
  | key::keys =>
    if key ≠ .none ∧ c.containers key then installFound c keys
    else if answers.prepare key then
      installFound { c with containers := update c.containers key true } keys
    else c

def installContainer (container : DockerContainer) : AdminConfig :=
  match answers.installed with
  | none => c
  | some installed =>
    if installed container || answers.setup then
      installFound answers c (allContainers.filter fun key => installed key || key == container)
    else c

def removeContainer (container : DockerContainer) : AdminConfig where
  containers := update c.containers container false
  defaultContainer :=
    if c.defaultContainer = container then
      (allContainers.find? (update c.containers container false)).getD .none
    else c.defaultContainer

/-- A round of `scanServerForInstalledContainers`; an error ends the call and nothing is saved. -/
def scanFound (key : DockerContainer) : Option AdminConfig :=
  if c.containers key then some c
  else if answers.prepare key then
    some ⟨update c.containers key true,
      if c.defaultContainer = .none ∧ containerService key ≠ .other ∧ supported key then key
      else c.defaultContainer⟩
  else none

def scanServerForInstalledContainers : AdminConfig :=
  match answers.installed with
  | none => c
  | some installed => ((allContainers.filter installed).foldlM (scanFound supported answers) c).getD c

/-- A call on the server; the script that removes containers may fail. -/
inductive Action
  | installContainer (answers : Answers) (container : DockerContainer)
  | removeContainer (done : Bool) (container : DockerContainer)
  | removeAllContainers (done : Bool)
  | scanServerForInstalledContainers (answers : Answers)
  | setDefaultContainer (container : DockerContainer)

def step (c : AdminConfig) : Action → AdminConfig
  | .installContainer answers container => installContainer answers c container
  | .removeContainer done container => if done then removeContainer c container else c
  | .removeAllContainers done => if done then ⟨fun _ => false,.none⟩ else c
  | .scanServerForInstalledContainers answers =>
    scanServerForInstalledContainers supported answers c
  | .setDefaultContainer container => { c with defaultContainer := container }

/-- There is no default container, or it is installed and more than a service. -/
def Connectable : Prop :=
  c.defaultContainer = .none ∨
    c.containers c.defaultContainer ∧ containerService c.defaultContainer ≠ .other

/-- A default container is set only if it can be connected to, and removed only if no container or
more than services are left. -/
def Careful : Action → Prop
  | .removeContainer true container => c.defaultContainer = container →
    (∀ key, update c.containers container false key = false) ∨
      ∃ key, update c.containers container false key ∧ containerService key ≠ .other
  | .setDefaultContainer container => Connectable { c with defaultContainer := container }
  | _ => True

variable {supported answers c} (h : Connectable c)

section

include h

lemma Connectable.grow (key : DockerContainer) :
    Connectable { c with containers := update c.containers key true } := by
  refine h.imp_right fun ⟨hinstalled,hservice⟩ => ⟨?_,hservice⟩
  by_cases hkey : c.defaultContainer = key
  · simp [hkey]
  · simpa [hkey] using hinstalled

lemma connectable_installFound (keys : List DockerContainer) :
    Connectable (installFound answers c keys) := by
  induction keys generalizing c with
  | nil => exact h
  | cons key keys ih =>
    rw [installFound]
    split_ifs
    · exact ih h
    · exact ih (h.grow key)
    · exact h

lemma connectable_scanFound {key : DockerContainer} {d : AdminConfig}
    (hd : scanFound supported answers c key = some d) : Connectable d := by
  rw [scanFound] at hd
  split_ifs at hd with hkey hprepare hdefault
  · cases hd
    exact h
  · cases hd
    exact .inr ⟨update_self ..,hdefault.2.1⟩
  · cases hd
    exact h.grow key

end

/-- The services are the last of the enumeration. -/
lemma first_service_iff {f : DockerContainer → Bool} {key : DockerContainer}
    (h : allContainers.find? f = some key) :
    containerService key ≠ .other ↔ ∃ other, f other ∧ containerService other ≠ .other := by
  refine ⟨fun hkey => ⟨key,find?_some h,hkey⟩,fun ⟨other,hother,hservice⟩ => ?_⟩
  have hsplit : allContainers = allContainers.filter (containerService · ≠ .other)++
      allContainers.filter (containerService · = .other) := by decide
  have hmem : other ∈ allContainers.filter (containerService · ≠ .other) :=
    mem_filter.mpr ⟨by cases other <;> decide,by simpa using hservice⟩
  rw [hsplit,find?_append] at h
  cases hvpn : (allContainers.filter (containerService · ≠ .other)).find? f with
  | none => exact absurd hother (find?_eq_none.mp hvpn other hmem)
  | some first =>
    rw [hvpn] at h
    cases h
    simpa using (mem_filter.mp (mem_of_find?_eq_some hvpn)).2

lemma connectable_removeContainer (h : Connectable c) (container : DockerContainer) :
    Connectable (removeContainer c container) ↔ Careful c (.removeContainer true container) := by
  rw [Careful]
  by_cases hdefault : c.defaultContainer = container
  · simp only [Connectable,removeContainer,hdefault,if_true,true_imp_iff]
    cases hfirst : allContainers.find? (update c.containers container false) with
    | none =>
      refine iff_of_true (.inl rfl) (.inl fun key => ?_)
      simpa using find?_eq_none.mp hfirst key (by cases key <;> decide)
    | some first =>
      have hfound := find?_some hfirst
      have hleft : ¬∀ key, update c.containers container false key = false := fun hall => by
        rw [hall] at hfound
        cases hfound
      rw [Option.getD_some,← first_service_iff hfirst]
      simp only [hleft,hfound,true_and,false_or]
      refine ⟨?_,.inr⟩
      rintro (rfl | hservice)
      · decide
      · exact hservice
  · refine iff_of_true (h.imp (fun h => ?_) fun h => ?_) fun h => absurd h hdefault
    · rwa [removeContainer,if_neg hdefault]
    · simpa [removeContainer,hdefault] using h

/-- The default container can always be connected to exactly in the runs whose calls are careful. -/
theorem default_connectable_iff (supported : DockerContainer → Bool) (actions : List Action) :
    Always (step supported) Connectable ⟨fun _ => false,.none⟩ actions ↔
      Guarded (step supported) Careful ⟨fun _ => false,.none⟩ actions := by
  refine always_iff_guarded (W := fun _ => True) (D := fun _ => True) (fun _ _ _ => id) ?_ trivial
    (.inl rfl) fun _ _ => trivial
  intro c action _ _ h
  cases action with
  | installContainer answers container =>
    refine iff_of_true ?_ trivial
    rw [step,installContainer]
    split
    · exact h
    · split
      · exact connectable_installFound h _
      · exact h
  | removeContainer done container =>
    cases done with
    | true => exact connectable_removeContainer h container
    | false => exact iff_of_true h trivial
  | removeAllContainers done =>
    cases done with
    | true => exact iff_of_true (.inl rfl) trivial
    | false => exact iff_of_true h trivial
  | scanServerForInstalledContainers answers =>
    refine iff_of_true ?_ trivial
    rw [step,scanServerForInstalledContainers]
    split
    · exact h
    · next installed _ =>
      cases hd : (allContainers.filter installed).foldlM (scanFound supported answers) c with
      | none => exact h
      | some d => exact foldlM_invariant (fun _ _ _ hd h => connectable_scanFound h hd) hd h
  | setDefaultContainer container => exact Iff.rfl

end AlzheimerVPN.InstallController
