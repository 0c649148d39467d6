import Autorocks.Lib.Machine
import Autorocks.Lib.Cursor
import Autorocks.Lib.Emplace
import Autorocks.Lib.Slots
import Autorocks.Iter.Basic
import Autorocks.Iter.Spec
import Autorocks.Iter.Requires
import Autorocks.Options.Basic
import Autorocks.Options.Wrapper
import Autorocks.Options.Layout
import Autorocks.Db.Interface
import Autorocks.Db.TransactionDB
import Autorocks.Db.Wrapper
import Autorocks.Db.Reference
import Autorocks.Db.Open
import Autorocks.Db.ColumnFamily
import Autorocks.Db.Lifecycle
import Autorocks.Lib.Acyclic
import Autorocks.Lib.ListEdit
import Autorocks.Lock.HashMap
import Autorocks.Lock.DeadlockBuffer
import Autorocks.Lock.Deadlock
import Autorocks.Lock.PointLock
import Autorocks.Lock.Protocol
import Autorocks.Lock.Runs
import Autorocks.Lock.Schedules
