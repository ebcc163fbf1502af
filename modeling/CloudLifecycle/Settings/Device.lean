import CloudLifecycle.Dict

/-!
# Block devices of a VM

The system disk of a VM is `/dev/sda`, its local ephemeral disk `/dev/sdb`; persistent disks get the
devices from `/dev/sdc` to `/dev/sdz`.  `firstFree` hands out the first of these that no disk has.
-/

set_option autoImplicit false

namespace CloudLifecycle

/-- Device paths by persistent disk. -/
abbrev DeviceAllocation : Type := Dict String

namespace Device

/-- The device of the system disk. -/
def system : String := "/dev/sda"

/-- The device of the ephemeral disk. -/
def ephemeral : String := "/dev/sdb"

/-- The letters of the devices for persistent disks. -/
def letters : List Char := "cdefghijklmnopqrstuvwxyz".toList

/-- The device with a letter. -/
def path (letter : Char) : String := "/dev/sd".push letter

/-- The devices for persistent disks, in the order in which they are handed out. -/
def persistent : List String := letters.map path

/-- The first device for a persistent disk that no disk has. -/
def firstFree (allocation : DeviceAllocation) : Option String :=
  persistent.find? fun device => !allocation.values.contains device

end Device

end CloudLifecycle
