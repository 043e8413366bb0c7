import FirecrackerContainerd.Strconv
import FirecrackerContainerd.Devmapper.MetaStore
import FirecrackerContainerd.Devmapper.PoolDevice
import FirecrackerContainerd.Devmapper.Snapshotter
import FirecrackerContainerd.Devmapper.Consistency
import FirecrackerContainerd.Devmapper.Atomicity
import FirecrackerContainerd.Devmapper.Close
import FirecrackerContainerd.Devmapper.DeviceNames
import FirecrackerContainerd.Devmapper.Legacy
import FirecrackerContainerd.Devmapper.Mounts
import FirecrackerContainerd.Devmapper.Orphans
import FirecrackerContainerd.Devmapper.Keys
import FirecrackerContainerd.Runtime.Vsock
import FirecrackerContainerd.Runtime.StartVM
import FirecrackerContainerd.Runtime.Service
import FirecrackerContainerd.Runtime.Footprint
import FirecrackerContainerd.Runtime.Machines
import FirecrackerContainerd.Runtime.AgentStarted
import FirecrackerContainerd.Runtime.Tasks
import FirecrackerContainerd.Runtime.CidRace
