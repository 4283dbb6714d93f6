import DistLock.Basic
import DistLock.Cluster
import DistLock.Gorm
import DistLock.Redis
import DistLock.Memcached
import DistLock.Mongo
import DistLock.Etcd
import DistLock.Consul
import DistLock.Zookeeper
import DistLock.Ownership
import DistLock.Harness
import DistLock.Liveness
import DistLock.GormTxn
import DistLock.Where
import DistLock.Validation
import DistLock.ValidationSafety
import DistLock.Token
import DistLock.Selector
