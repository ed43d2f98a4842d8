import LibStorageMgmt.Py.Str
import LibStorageMgmt.Py.Float
import LibStorageMgmt.Py.Value
import LibStorageMgmt.Lsm.Transport
import LibStorageMgmt.Lsm.Client
import LibStorageMgmt.Lsm.Locate
import LibStorageMgmt.Lsm.Discovery
import LibStorageMgmt.Lsm.Sockets
import LibStorageMgmt.Lsm.Search
import LibStorageMgmt.Lsm.Stubs
import LibStorageMgmt.V7k.Ssh
import LibStorageMgmt.V7k.Commands
import LibStorageMgmt.V7k.Parse
import LibStorageMgmt.V7k.Plugin
import LibStorageMgmt.V7k.Array
import LibStorageMgmt.V7k.Hosts
import LibStorageMgmt.V7k.Listings
import LibStorageMgmt.V7k.Grant
import LibStorageMgmt.V7k.Queries
import LibStorageMgmt.V7k.Shapes
import LibStorageMgmt.V7k.Session
import LibStorageMgmt.V7k.Config
import LibStorageMgmt.V7k.Methods
import LibStorageMgmt.Smis.Disk
import LibStorageMgmt.Smis.Convert
