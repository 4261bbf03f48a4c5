import Paho.MessageIds.Runs
import Paho.Router.Alias
import Paho.Router.Handlers
import Paho.Packets.Unsubscribe
import Paho.Locking
import Paho.Router.Races
import Paho.Router.ConcurrentRoutes
import Paho.Serial
import Paho.MessageIds.Concurrent
import Paho.Router.Serial
