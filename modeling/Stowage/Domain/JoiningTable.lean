/-! How letters join with the letters beside them. -/
namespace Stowage.Domain

/-- The value is the position among the ways to join. -/
def joiningRows : List String := [
  "620:1 622-625:2 626:1 627:2 628:1 629:2 62a-62e:1 62f-632:2 633-63f:1 640:4 641-647:1 648:2",
  "649-64a:1 66e-66f:1 671-673:2 679-687:1 688-699:2 69a-6bf:1 6c0:2 6c1-6c2:1 6c3-6cb:2 6cc:1",
  "6cd:2 6ce:1 6cf:2 6d0-6d1:1 6d2-6d3:2 6d5:2 6ee-6ef:2 6fa-6fc:1 6ff:1 710:2 712-714:1",
  "715-719:2 71a-71d:1 71e:2 71f-727:1 728:2 729:1 72a:2 72b:1 72c:2 72d-72e:1 72f:2 74d:2",
  "74e-758:1 759-75b:2 75c-76a:1 76b-76c:2 76d-770:1 771:2 772:1 773-774:2 775-777:1 778-779:2",
  "77a-77f:1 7ca-7ea:1 7fa:4 840:2 841-845:1 846-847:2 848:1 849:2 84a-853:1 854:2 855:1",
  "856-858:2 860:1 862-865:1 867:2 868:1 869-882:2 883-885:4 886:1 889-88d:1 88e:2 88f:1",
  "8a0-8a9:1 8aa-8ac:2 8ae:2 8af-8b0:1 8b1-8b2:2 8b3-8b8:1 8b9:2 8ba-8c8:1 1807:1 180a:4",
  "1820-1878:1 1887-18a8:1 18aa:1 200d:4 a840-a871:1 a872:3 10ac0-10ac4:1 10ac5:2 10ac7:2",
  "10ac9-10aca:2 10acd:3 10ace-10ad2:2 10ad3-10ad6:1 10ad7:3 10ad8-10adc:1 10add:2",
  "10ade-10ae0:1 10ae1:2 10ae4:2 10aeb-10aee:1 10aef:2 10b80:1 10b81:2 10b82:1 10b83-10b85:2",
  "10b86-10b88:1 10b89:2 10b8a-10b8b:1 10b8c:2 10b8d:1 10b8e-10b8f:2 10b90:1 10b91:2",
  "10ba9-10bac:2 10bad-10bae:1 10d00:3 10d01-10d21:1 10d22:2 10d23:1 10ec2:2 10ec3-10ec4:1",
  "10ec6-10ec7:1 10f30-10f32:1 10f33:2 10f34-10f44:1 10f51-10f53:1 10f54:2 10f70-10f73:1",
  "10f74-10f75:2 10f76-10f81:1 10fb0:1 10fb2-10fb3:1 10fb4-10fb6:2 10fb8:1 10fb9-10fba:2",
  "10fbb-10fbc:1 10fbd:2 10fbe-10fbf:1 10fc1:1 10fc2-10fc3:2 10fc4:1 10fc9:2 10fca:1 10fcb:3",
  "1e922-1e943:1 1e94b:5"]

end Stowage.Domain
