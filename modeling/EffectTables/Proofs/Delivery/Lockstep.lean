import EffectTables.Delivery
import EffectTables.Proofs.Files.Lockstep

namespace EffectTables.Delivery

open Files (Lockstep Paired Fault)

-- The delivery does nothing but ask its host, so that it keeps step on any two that are paired.
variable {σ τ : Type} [Host (StateM σ)] [Host (StateM τ)] {related : σ → τ → Prop}
  (law : Paired related)

include law

theorem lockstep_readText (path : String) :
    Lockstep related (readText path) (readText path) := by
  refine (law.read path).bind fun found => ?_
  split
  next => exact .pure _
  next => split <;> exact .pure _

theorem lockstep_sourcesOf (settings : Settings) (input : String) :
    Job.Lockstep related (sourcesOf settings input) (sourcesOf settings input) :=
  (Job.Lockstep.request (lockstep_readText law input) _).bind fun _ => .ofTraced law _

theorem lockstep_makeOrFind (path : String) :
    Lockstep related (makeOrFind path) (makeOrFind path) := by
  refine (law.makeDirectory path).bind fun made => ?_
  split
  next => exact .pure _
  next =>
    refine (law.isDirectory path).bind fun found => ?_
    split <;> exact .pure _

theorem lockstep_makeDirectories (paths : List String) :
    Lockstep related (makeDirectories paths) (makeDirectories paths) := by
  induction paths with
  | nil => exact .pure _
  | cons path above ih =>
      refine (lockstep_makeOrFind law path).bind fun made => ?_
      split
      next =>
        refine ih.bind fun found => ?_
        split
        next => exact lockstep_makeOrFind law path
        next => exact .pure _
      next => exact .pure _

theorem lockstep_makeDirectory (path : String) :
    Lockstep related (makeDirectory path) (makeDirectory path) := by
  rw [makeDirectory, makeDirectory]
  split
  next => exact .pure _
  next => exact lockstep_makeDirectories law _

theorem lockstep_makeTemporary (directory : String) (tries : Nat) :
    Lockstep related (makeTemporary directory tries) (makeTemporary directory tries) := by
  induction tries with
  | zero => exact .pure _
  | succ tries ih =>
      refine (law.create _).bind fun made => ?_
      split
      next => exact .pure _
      next => exact ih
      next => exact .pure _

theorem lockstep_discard (temporary : String) (fault : Fault) :
    Lockstep related (discard temporary fault) (discard temporary fault) :=
  (law.remove temporary).bind fun _ => .pure _

theorem lockstep_replace (path : String) (bytes : ByteArray) :
    Lockstep related (replace path bytes) (replace path bytes) := by
  refine (lockstep_makeTemporary law _ _).bind fun made => ?_
  split
  next => exact .pure _
  next temporary =>
    refine (law.fill temporary bytes).bind fun filled => ?_
    split
    next => exact lockstep_discard law _ _
    next =>
      refine (law.rename temporary path).bind fun renamed => ?_
      split
      next => exact lockstep_discard law _ _
      next => exact .pure _

theorem lockstep_generateFile (path contents : String) :
    Job.Lockstep related (generateFile path contents) (generateFile path contents) :=
  (Job.Lockstep.request (lockstep_replace law _ _) _).bind fun _ =>
    (Job.Lockstep.note law _).bind fun _ => .pure _

theorem lockstep_writeIfChanged (path contents : String) :
    Job.Lockstep related (writeIfChanged path contents) (writeIfChanged path contents) := by
  refine (Job.Lockstep.perform (law.read path)).bind fun found => ?_
  split
  next =>
    split
    next => exact (Job.Lockstep.note law _).bind fun _ => .pure _
    next => exact lockstep_generateFile law _ _
  next => exact lockstep_generateFile law _ _
  next => exact .fail _

theorem lockstep_write (settings : Settings) (directory : String) (sources : Sources) :
    Job.Lockstep related (write settings directory sources) (write settings directory sources) :=
  (Job.Lockstep.request (lockstep_makeDirectory law _) _).bind fun _ =>
    (lockstep_writeIfChanged law _ _).bind fun _ =>
      (lockstep_writeIfChanged law _ _).bind fun _ => .pure _

theorem lockstep_generate (settings : Settings) (input directory : String) :
    Job.Lockstep related (generate settings input directory) (generate settings input directory) :=
  (lockstep_sourcesOf law settings input).bind fun _ => lockstep_write law _ _ _

theorem lockstep_removeFile (path : String) :
    Job.Lockstep related (removeFile path) (removeFile path) := by
  refine (Job.Lockstep.perform (law.remove path)).bind fun removed => ?_
  split
  next => exact (Job.Lockstep.note law _).bind fun _ => .pure _
  next => exact (Job.Lockstep.note law _).bind fun _ => .pure _
  next => exact .fail _

theorem lockstep_clean (settings : Settings) (directory : String) :
    Job.Lockstep related (clean settings directory) (clean settings directory) := by
  rw [clean, clean]
  split
  next => exact .fail _
  next =>
    exact (lockstep_removeFile law _).bind fun _ =>
      (lockstep_removeFile law _).bind fun _ => .pure _

end EffectTables.Delivery
