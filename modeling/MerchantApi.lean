import MerchantApi.InFlight
import MerchantApi.Main
import MerchantApi.FileTree
import MerchantApi.Proofs.Entity.RecordLanguage
import MerchantApi.Proofs.Entity.Stability
import MerchantApi.Proofs.EntityService.PagedList
import MerchantApi.Proofs.InFlight
import MerchantApi.Proofs.Refusals
import MerchantApi.Proofs.Template.Resolve
import MerchantApi.Proofs.EntityService.PageQuery
import MerchantApi.Proofs.Mapping.Limits
import MerchantApi.Proofs.Mapping.Store
import MerchantApi.Proofs.EntityService.ListQuery
import MerchantApi.Proofs.EntityService.WrittenPath
import MerchantApi.Proofs.EntityService.Records
import MerchantApi.Proofs.CommandLine.Saving
import MerchantApi.Proofs.Entity.SetFields
import MerchantApi.Proofs.Mapping.GroupContents
import MerchantApi.Proofs.Entity.Rehydration
import MerchantApi.Proofs.Entity.Dates
import MerchantApi.Proofs.EndpointSet
import MerchantApi.Proofs.Http.BaseAddress
import MerchantApi.Proofs.EntityService.Envelope
import MerchantApi.Proofs.Loading.Watchers
import MerchantApi.Proofs.EntityService.ItemPath
import MerchantApi.Proofs.Http.StraySlashes
import MerchantApi.Proofs.Http.SentQuery
import MerchantApi.Proofs.CommandLine.Importing
