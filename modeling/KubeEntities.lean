import KubeEntities.Host.Memory
import KubeEntities.Main
import KubeEntities.Proofs.Exposition.Items
import KubeEntities.Proofs.Exposition.Kinds
import KubeEntities.Proofs.Exposition.Locality
import KubeEntities.Proofs.Exposition.RoundTrip
import KubeEntities.Proofs.Exposition.Strict
import KubeEntities.Proofs.FamilyOrder
import KubeEntities.Proofs.Log
import KubeEntities.Proofs.Payload.Text
import KubeEntities.Proofs.Payload.WellFormed
import KubeEntities.Proofs.Population.Aborts
import KubeEntities.Proofs.Population.Accounting
import KubeEntities.Proofs.Population.Independence
import KubeEntities.Proofs.Population.Marks
import KubeEntities.Proofs.Population.Outcome
import KubeEntities.Proofs.Population.Separate
import KubeEntities.Proofs.Population.Values
import KubeEntities.Proofs.Query
import KubeEntities.Proofs.Scrape.Tally
import KubeEntities.Proofs.Series.Record
import KubeEntities.Proofs.Settings.Layering
import KubeEntities.Proofs.Settings.Respelling
import KubeEntities.Proofs.Split.Parts
import KubeEntities.Proofs.StateMetrics.Attributes
import KubeEntities.Proofs.StateMetrics.Clusters
import KubeEntities.Proofs.StateMetrics.Containers
import KubeEntities.Proofs.StateMetrics.Filtering
import KubeEntities.Proofs.StateMetrics.Isolation
import KubeEntities.Proofs.StateMetrics.Kinds
import KubeEntities.Proofs.StateMetrics.Once
import KubeEntities.Proofs.StateMetrics.Pods
import KubeEntities.Proofs.StateMetrics.Resources
import KubeEntities.Proofs.Strategy.Keyed
import KubeEntities.Proofs.Strategy.Labels
import KubeEntities.Proofs.Strategy.ParentId
import KubeEntities.Proofs.Grouping.Separation
