import GraphModel.Python.Value
import GraphModel.Core.Naming
import GraphModel.Core.Classifier
import GraphModel.Attributes.Fields
import GraphModel.Neo4j.Serialize
import GraphModel.Neo4j.Deserialize
import GraphModel.Neo4j.RoundTrip
import GraphModel.Neo4j.Driver
import GraphModel.Neo4j.Linearization
import GraphModel.Querying.Traversal
import GraphModel.Querying.Session
import GraphModel.Querying.Separation
