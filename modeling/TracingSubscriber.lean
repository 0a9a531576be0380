import TracingSubscriber.Core
import TracingSubscriber.FilterMap
import TracingSubscriber.FilterState
import TracingSubscriber.Layer
import TracingSubscriber.Dispatch
import TracingSubscriber.Delivery
import TracingSubscriber.Interest
import TracingSubscriber.LevelHint
import TracingSubscriber.Registration
import TracingSubscriber.Runs
import TracingSubscriber.RunSafety
import TracingSubscriber.Reset
import TracingSubscriber.Intent
import TracingSubscriber.Shielded
