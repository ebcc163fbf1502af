import CloudLifecycle.Error

/-!
# Disk sizes

A backend takes disks between two sizes and of a granularity, all counted in MiB, and creates them
in whole GiB.  `DiskSizePolicy.validate` reports the first rule that a size breaks, or the GiB
that hold the disk.
-/

set_option autoImplicit false

namespace CloudLifecycle

/-- The disk sizes that a backend takes, in MiB. -/
structure DiskSizePolicy where
  granularityMib : Nat
  minMib : Nat
  maxMib : Nat
deriving DecidableEq, Repr

namespace DiskSizePolicy

def mibPerGib : Nat := 1024

/-- Tens of MiB from 10 to 500 GiB. -/
def qingcloud : DiskSizePolicy := ⟨10, 10 * mibPerGib, 500 * mibPerGib⟩

/-- Tens of MiB from 1 to 1000 GiB. -/
def hwcloud : DiskSizePolicy := ⟨10, mibPerGib, 1000 * mibPerGib⟩

/-- The whole GiB of a size, rounded up. -/
def gib (sizeMib : Nat) : Nat := (sizeMib + (mibPerGib - 1)) / mibPerGib

/-- The GiB of a size that keeps the rules.  A policy has a granularity of one at least: no
remainder can be taken of zero, which stops the program with a panic, and here a size is then
refused as not divisible. -/
def validate (policy : DiskSizePolicy) (sizeMib : Nat) : Except CpiError Nat :=
  if sizeMib = 0 then .error (.invalidArgument "disk size must be a positive integer")
  else if sizeMib % policy.granularityMib ≠ 0 then
    .error (.invalidArgument ("disk size " ++ sizeMib.repr ++ " MiB must be divisible by "
      ++ policy.granularityMib.repr))
  else if sizeMib < policy.minMib then
    .error (.invalidArgument ("minimum disk size is " ++ (policy.minMib / mibPerGib).repr
      ++ " GiB"))
  else if policy.maxMib < sizeMib then
    .error (.invalidArgument ("maximum disk size is " ++ (policy.maxMib / mibPerGib).repr
      ++ " GiB"))
  else if gib sizeMib ≤ 0xFFFFFFFF then .ok (gib sizeMib)
  else .error (.invalidArgument ("disk size " ++ sizeMib.repr ++ " MiB too large"))

end DiskSizePolicy

end CloudLifecycle
